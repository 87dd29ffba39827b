import FireflyToolkit.Domain.Matcher
import FireflyToolkit.Shared.OrderedDict

set_option autoImplicit false

namespace FireflyToolkit.Allegro

open OrderedDict

structure PageRequest where
  limit : Int
  offset : Int
  limit_positive : 0 < limit
  offset_nonnegative : 0 ≤ offset
  deriving DecidableEq

def PageRequest.ofQuery (limit offset : Int) : Except PyError PageRequest :=
  if positive : 0 < limit then
    if nonnegative : 0 ≤ offset then .ok ⟨limit, offset, positive, nonnegative⟩
    else .error (.valueError "offset must be greater than or equal to 0")
  else .error (.valueError "limit must be greater than 0")

def PageRequest.default : PageRequest := ⟨25, 0, by decide, by decide⟩

structure PageMatchCacheEntry where
  page : PageRequest
  login : String
  payments : List AllegroOrderPayment
  results : List (MatchResult AllegroOrderPayment)
  deriving DecidableEq

structure MatchDecision where
  paymentId : String
  transactionId : Int
  deriving DecidableEq, Repr

structure ApplyOutcome where
  transactionId : Int
  status : OutcomeStatus
  reason : Option String
  deriving DecidableEq, Repr

structure ApplyJob where
  id : UUID
  secretId : UUID
  total : Nat
  status : JobStatus
  startedAt : Time
  applied : Nat
  failed : Nat
  results : List ApplyOutcome
  finishedAt : Option Time
  deriving DecidableEq, Repr

abbrev PageCache := Dict PageRequest PageMatchCacheEntry

structure StateStore where
  pageMatchesCache : Dict UUID PageCache
  jobs : Dict UUID ApplyJob

namespace StateStore

def initial : StateStore := ⟨Dict.empty, Dict.empty⟩

def pageCache (store : StateStore) (secretId : UUID) : PageCache :=
  (store.pageMatchesCache.get? secretId).getD Dict.empty

def putPageMatches (store : StateStore) (secretId : UUID) (entry : PageMatchCacheEntry) :
    StateStore :=
  { store with
    pageMatchesCache := store.pageMatchesCache.set secretId
      ((store.pageCache secretId).set entry.page entry) }

def pages (store : StateStore) (secretId : UUID) : List PageMatchCacheEntry :=
  (store.pageCache secretId).values

def getAllMatches (store : StateStore) (secretId : UUID) : List (MatchResult AllegroOrderPayment) :=
  (store.pages secretId).flatMap PageMatchCacheEntry.results

def invalidatePage (store : StateStore) (secretId : UUID) (page : PageRequest) :
    StateStore × Bool :=
  match store.pageMatchesCache.get? secretId with
  | none => (store, false)
  | some cache =>
      if (cache.get? page).isNone then (store, false)
      else
        let remaining := cache.erase page
        -- A secret without pages has no entry in the cache.
        if remaining.entries = [] then
          ({ store with pageMatchesCache := store.pageMatchesCache.erase secretId }, true)
        else ({ store with pageMatchesCache := store.pageMatchesCache.set secretId remaining }, true)

def invalidateSecret (store : StateStore) (secretId : UUID) : StateStore × Bool :=
  if (store.pageMatchesCache.get? secretId).isNone then (store, false)
  else ({ store with pageMatchesCache := store.pageMatchesCache.erase secretId }, true)

def invalidateAll (store : StateStore) : StateStore :=
  { store with pageMatchesCache := Dict.empty }

def createJob (store : StateStore) (jobId secretId : UUID) (total : Nat) (now : Time) :
    StateStore × ApplyJob :=
  let job : ApplyJob :=
    { id := jobId, secretId := secretId, total := total, status := .pending, startedAt := now
      applied := 0, failed := 0, results := [], finishedAt := none }
  ({ store with jobs := store.jobs.set jobId job }, job)

theorem pageCache_putPageMatches (store : StateStore) (secretId other : UUID)
    (entry : PageMatchCacheEntry) :
    (store.putPageMatches secretId entry).pageCache other =
      if other = secretId then (store.pageCache secretId).set entry.page entry
      else store.pageCache other := by
  by_cases same : other = secretId <;> simp [putPageMatches, pageCache, same]

theorem pageCache_invalidatePage (store : StateStore) (secretId other : UUID)
    (page : PageRequest) :
    ((store.invalidatePage secretId page).1).pageCache other =
      if other = secretId then (store.pageCache secretId).erase page else store.pageCache other := by
  unfold invalidatePage
  cases cached : store.pageMatchesCache.get? secretId with
  | none =>
    have nothing : store.pageCache secretId = Dict.empty := by simp [pageCache, cached]
    by_cases same : other = secretId
    · simp [same, nothing]
    · simp [same]
  | some cache =>
    have current : store.pageCache secretId = cache := by simp [pageCache, cached]
    rw [current]
    by_cases present : cache.get? page = none
    · by_cases same : other = secretId <;> simp [same, present, current, Dict.erase_of_absent]
    · by_cases emptied : (cache.erase page).entries = []
      · have gone : cache.erase page = Dict.empty := Dict.eq_of_entries emptied
        by_cases same : other = secretId
        · simp [same, present, gone, Dict.empty, pageCache]
        · simp [same, present, emptied, pageCache]
      · by_cases same : other = secretId <;> simp [same, present, emptied, pageCache]

theorem pageCache_invalidateSecret (store : StateStore) (secretId other : UUID) :
    ((store.invalidateSecret secretId).1).pageCache other =
      if other = secretId then Dict.empty else store.pageCache other := by
  unfold invalidateSecret
  by_cases absent : store.pageMatchesCache.get? secretId = none <;>
    by_cases same : other = secretId <;> simp [absent, same, pageCache]

theorem mem_pages_putPageMatches {store : StateStore} {secretId other : UUID}
    {added entry : PageMatchCacheEntry}
    (member : entry ∈ (store.putPageMatches secretId added).pages other) :
    entry = added ∨ entry ∈ store.pages other := by
  rw [pages, pageCache_putPageMatches] at member
  split_ifs at member with same
  · exact same ▸ Dict.mem_values_set member
  · exact .inr member

theorem mem_pages_invalidatePage {store : StateStore} {secretId other : UUID} {page : PageRequest}
    {entry : PageMatchCacheEntry}
    (member : entry ∈ ((store.invalidatePage secretId page).1).pages other) :
    entry ∈ store.pages other := by
  rw [pages, pageCache_invalidatePage] at member
  split_ifs at member with same
  · exact same ▸ Dict.mem_values_erase member
  · exact member

theorem mem_pages_invalidateSecret {store : StateStore} {secretId other : UUID}
    {entry : PageMatchCacheEntry}
    (member : entry ∈ ((store.invalidateSecret secretId).1).pages other) :
    entry ∈ store.pages other := by
  rw [pages, pageCache_invalidateSecret] at member
  split_ifs at member
  · cases member
  · exact member

end StateStore

end FireflyToolkit.Allegro
