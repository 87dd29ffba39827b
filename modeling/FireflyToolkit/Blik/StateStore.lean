import FireflyToolkit.Domain.Matcher
import FireflyToolkit.Shared.OrderedDict

set_option autoImplicit false

namespace FireflyToolkit.Blik

open OrderedDict

structure MatchDecision where
  transactionId : Int
  selectedMatchId : String
  deriving DecidableEq, Repr

structure ApplyOutcome where
  transactionId : Int
  selectedMatchId : Option String
  status : OutcomeStatus
  reason : Option String
  deriving DecidableEq, Repr

structure ApplyJob where
  id : UUID
  fileId : String
  total : Nat
  status : JobStatus
  startedAt : Time
  applied : Nat
  failed : Nat
  results : List ApplyOutcome
  finishedAt : Option Time
  deriving DecidableEq, Repr

structure StateStore where
  matchesCache : Dict String (List (MatchResult BankRecord))
  jobs : Dict UUID ApplyJob

namespace StateStore

def initial : StateStore := ⟨Dict.empty, Dict.empty⟩

def putMatches (store : StateStore) (fileId : String) (results : List (MatchResult BankRecord)) :
    StateStore :=
  { store with matchesCache := store.matchesCache.set fileId results }

def getMatches (store : StateStore) (fileId : String) : List (MatchResult BankRecord) :=
  (store.matchesCache.get? fileId).getD []

def createJob (store : StateStore) (jobId : UUID) (fileId : String) (total : Nat) (now : Time) :
    StateStore × ApplyJob :=
  let job : ApplyJob :=
    { id := jobId, fileId := fileId, total := total, status := .pending, startedAt := now
      applied := 0, failed := 0, results := [], finishedAt := none }
  ({ store with jobs := store.jobs.set jobId job }, job)

@[simp] theorem getMatches_putMatches (store : StateStore) (fileId other : String)
    (results : List (MatchResult BankRecord)) :
    (store.putMatches fileId results).getMatches other =
      if other = fileId then results else store.getMatches other := by
  by_cases same : other = fileId <;> simp [putMatches, getMatches, same]

end StateStore

end FireflyToolkit.Blik
