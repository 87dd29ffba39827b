import FireflyToolkit.Firefly.Services

set_option autoImplicit false

namespace FireflyToolkit.FireflyEnrichmentService

open PyBuiltins

variable {α : Type} [Evidence α]

section AnyClient

variable (settings : Settings) (client : FireflyClient)

def attemptAll : FireflyStore → List (Except PyError (Transaction × α)) →
    FireflyStore × List (Option PyError)
  | store, [] => (store, [])
  | store, resolution :: rest =>
      let (next, failure) := attempt settings client store resolution
      let (last, failures) := attemptAll next rest
      (last, failure :: failures)

theorem attemptAll_cons (store : FireflyStore) (resolution : Except PyError (Transaction × α))
    (rest : List (Except PyError (Transaction × α))) :
    (attemptAll settings client store (resolution :: rest)).1 =
      (attemptAll settings client (attempt settings client store resolution).1 rest).1 := rfl

theorem attemptAll_length (store : FireflyStore)
    (resolutions : List (Except PyError (Transaction × α))) :
    (attemptAll settings client store resolutions).2.length = resolutions.length := by
  induction resolutions generalizing store with
  | nil => rfl
  | cons resolution rest ih => simp [attemptAll, ih]

theorem attemptAll_report (store : FireflyStore)
    (resolutions : List (Except PyError (Transaction × α))) (place : Nat) :
    (attemptAll settings client store resolutions).2[place]? =
      resolutions[place]?.map fun resolution =>
        (attempt settings client
          (attemptAll settings client store (resolutions.take place)).1 resolution).2 := by
  induction resolutions generalizing store place with
  | nil => simp [attemptAll]
  | cons resolution rest ih =>
    cases place with
    | zero => simp [attemptAll]
    | succ earlier => simp [attemptAll, ih]

end AnyClient

section Reliable

variable {settings : Settings}

theorem applyMatch_reliable {store next : FireflyStore} {tx : Transaction} {evidence : α} :
    applyMatch settings .reliable store tx evidence = .ok next ↔
      ∃ payload, Evidence.buildTxUpdate settings.lower evidence tx = .ok payload ∧
        store.knows tx.id = true ∧ next = store.replace tx.id payload := by
  rw [applyMatch_ok]
  refine exists_congr fun payload => and_congr_right fun built => ?_
  exact FireflyStore.updateTransaction_uncategorized (Evidence.payload_categoryId built)

theorem attempt_reliable (store : FireflyStore) (tx : Transaction) (evidence : α) :
    (∃ payload, Evidence.buildTxUpdate settings.lower evidence tx = .ok payload ∧
        store.knows tx.id = true ∧
        attempt settings .reliable store (.ok (tx, evidence)) = (store.replace tx.id payload, none)) ∨
      ((∀ payload, Evidence.buildTxUpdate settings.lower evidence tx = .ok payload →
          store.knows tx.id = false) ∧
        ∃ failure, attempt settings .reliable store (.ok (tx, evidence)) = (store, some failure)) := by
  cases applied : applyMatch settings .reliable store tx evidence with
  | ok next =>
    obtain ⟨payload, built, known, rfl⟩ := applyMatch_reliable.mp applied
    exact .inl ⟨payload, built, known, by simp only [attempt, applied]⟩
  | error failure =>
    refine .inr ⟨fun payload built => ?_, failure, by simp only [attempt, applied]⟩
    by_contra known
    have succeeds := applyMatch_reliable.mpr ⟨payload, built, by simpa using known, rfl⟩
    rw [applied] at succeeds
    cases succeeds

theorem attempt_knows (store : FireflyStore) (resolution : Except PyError (Transaction × α))
    (txId : Int) :
    (attempt settings .reliable store resolution).1.knows txId = store.knows txId := by
  cases resolution with
  | error failure => rfl
  | ok selected =>
    rcases attempt_reliable store selected.1 selected.2 with
      ⟨payload, -, -, written⟩ | ⟨-, failure, refused⟩
    · rw [written, FireflyStore.knows_replace]
    · rw [refused]

theorem attemptAll_knows (store : FireflyStore)
    (resolutions : List (Except PyError (Transaction × α))) (txId : Int) :
    (attemptAll settings .reliable store resolutions).1.knows txId = store.knows txId := by
  induction resolutions generalizing store with
  | nil => rfl
  | cons resolution rest ih => rw [attemptAll_cons, ih, attempt_knows]

theorem attemptAll_succeeds {store : FireflyStore}
    {resolutions : List (Except PyError (Transaction × α))} {place : Nat} {tx : Transaction}
    {evidence : α} (placed : resolutions[place]? = some (.ok (tx, evidence))) :
    (attemptAll settings .reliable store resolutions).2[place]? = some none ↔
      (∃ payload, Evidence.buildTxUpdate settings.lower evidence tx = .ok payload) ∧
        store.knows tx.id = true := by
  rw [attemptAll_report, placed, Option.map_some, Option.some.injEq]
  rcases attempt_reliable (attemptAll settings .reliable store (resolutions.take place)).1 tx evidence
    with ⟨payload, built, known, written⟩ | ⟨unknown, failure, refused⟩
  · rw [written]
    rw [attemptAll_knows] at known
    exact iff_of_true rfl ⟨⟨payload, built⟩, known⟩
  · rw [refused]
    refine iff_of_false (by simp) ?_
    intro ⟨⟨payload, built⟩, known⟩
    have missing := unknown payload built
    rw [attemptAll_knows, known] at missing
    cases missing

def writtenNotes (settings : Settings) (store : FireflyStore) (txId : Int) :
    Except PyError (Transaction × α) → Option String
  | .error _ => none
  | .ok (tx, evidence) =>
      if tx.id = txId ∧ store.knows txId = true then
        match Evidence.buildTxUpdate settings.lower evidence tx with
        | .ok payload => payload.notes
        | .error _ => none
      else none

theorem attempt_notes (store : FireflyStore) (resolution : Except PyError (Transaction × α))
    (txId : Int) :
    (attempt settings .reliable store resolution).1.notesOf txId =
      (writtenNotes settings store txId resolution).getD (store.notesOf txId) := by
  cases resolution with
  | error failure => rfl
  | ok selected =>
    obtain ⟨tx, evidence⟩ := selected
    rcases attempt_reliable store tx evidence with
      ⟨payload, built, known, written⟩ | ⟨unknown, failure, refused⟩
    · rw [written, FireflyStore.notesOf_replace known]
      by_cases same : tx.id = txId
      · subst same
        simp [writtenNotes, known, built]
      · simp [writtenNotes, same, Ne.symm same]
    · rw [refused]
      cases built : Evidence.buildTxUpdate settings.lower evidence tx with
      | error reason => simp [writtenNotes, built]
      | ok payload =>
        have missing := unknown payload built
        by_cases same : tx.id = txId
        · subst same
          simp [writtenNotes, missing]
        · simp [writtenNotes, same]

-- Whatever a job wrote before, the last attempt that writes notes decides what is stored.
theorem attemptAll_notes (store : FireflyStore)
    (resolutions : List (Except PyError (Transaction × α))) (txId : Int) :
    (attemptAll settings .reliable store resolutions).1.notesOf txId =
      (resolutions.filterMap (writtenNotes settings store txId)).getLast?.getD (store.notesOf txId) := by
  induction resolutions generalizing store with
  | nil => rfl
  | cons resolution rest ih =>
    have unchanged : ∀ other : Except PyError (Transaction × α),
        writtenNotes settings (attempt settings .reliable store resolution).1 txId other =
          writtenNotes settings store txId other := by
      intro other
      cases other <;> simp only [writtenNotes, attempt_knows]
    have later := ih (attempt settings .reliable store resolution).1
    rw [List.filterMap_congr fun other _ => unchanged other, attempt_notes] at later
    rw [attemptAll_cons, later]
    cases written : writtenNotes settings store txId resolution with
    | none => rw [List.filterMap_cons_none written, Option.getD_none]
    | some notes =>
      rw [List.filterMap_cons_some written, List.getLast?_cons, Option.getD_some, Option.getD_some]

end Reliable

end FireflyToolkit.FireflyEnrichmentService
