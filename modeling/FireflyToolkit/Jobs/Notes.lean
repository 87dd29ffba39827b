import FireflyToolkit.Allegro.CachedPages
import FireflyToolkit.Blik.Application

set_option autoImplicit false

namespace FireflyToolkit

open OrderedDict PyBuiltins FireflyEnrichmentService

def below (notes text : String) : String := if notes = "" then text else notes ++ "\n" ++ text

-- How a kind of evidence enters the notes of a transaction.
structure NoteRule (α : Type) where
  text : α → Except PyError String
  builds : α → Prop
  adds : Transaction → α → Prop

namespace NoteRule

variable {α : Type} (rule : NoteRule α)

def Writes (store : FireflyStore) (txId : Int) (resolution : Except PyError (Transaction × α))
    (cached : Transaction) (text : String) : Prop :=
  ∃ evidence, resolution = .ok (cached, evidence) ∧ cached.id = txId ∧ store.knows txId = true ∧
    rule.builds evidence ∧ rule.adds cached evidence ∧ rule.text evidence = .ok text

structure Describes [Evidence α] (settings : Settings) : Prop where
  builds : ∀ {tx evidence}, (∃ payload, Evidence.buildTxUpdate settings.lower evidence tx = .ok payload) ↔
    rule.builds evidence
  prints : ∀ {evidence}, rule.builds evidence → ∃ text, rule.text evidence = .ok text
  notes : ∀ {tx evidence payload notes}, Evidence.buildTxUpdate settings.lower evidence tx = .ok payload →
    (payload.notes = some notes ↔ rule.adds tx evidence ∧
      ∃ text, rule.text evidence = .ok text ∧ notes = below (tx.notes.getD "") text)

end NoteRule

section Notes

variable {α : Type} (settings : Settings) (rule : NoteRule α)

def KeepsNotes (before after : FireflyStore) (resolutions : List (Except PyError (Transaction × α)))
    (succeeded : Nat → Prop) : Prop :=
  ∀ txId, OccursIn (before.notesOf txId) (after.notesOf txId) ∧
    ∀ place tx evidence, resolutions[place]? = some (.ok (tx, evidence)) → tx.id = txId →
      succeeded place → ∃ text, rule.text evidence = .ok text ∧
        OccursIn (settings.lower text) (settings.lower (after.notesOf txId))

def HoldsTexts (store : FireflyStore) (resolutions : List (Except PyError (Transaction × α)))
    (txId : Int) (notes : String) : Prop :=
  ∀ tx evidence text, Except.ok (tx, evidence) ∈ resolutions → tx.id = txId →
    store.knows txId = true → rule.builds evidence → rule.text evidence = .ok text →
    OccursIn (settings.lower text) (settings.lower notes)

-- The cached notes with the text of the last decision that writes hold the stored notes and every
-- text; where none writes, the stored notes hold every text already.
def LastWriteHoldsAll (store : FireflyStore)
    (resolutions : List (Except PyError (Transaction × α))) : Prop :=
  ∀ txId,
    (∀ before resolution after cached text, resolutions = before ++ resolution :: after →
      rule.Writes store txId resolution cached text →
      (∀ later ∈ after, ∀ other otherText, ¬ rule.Writes store txId later other otherText) →
      OccursIn (store.notesOf txId) (below (cached.notes.getD "") text) ∧
        HoldsTexts settings rule store resolutions txId (below (cached.notes.getD "") text)) ∧
    ((∀ resolution ∈ resolutions, ∀ cached text, ¬ rule.Writes store txId resolution cached text) →
      HoldsTexts settings rule store resolutions txId (store.notesOf txId))

variable [Evidence α] {settings rule} {store : FireflyStore}
  {resolutions : List (Except PyError (Transaction × α))}

theorem writtenNotes_eq_some (describes : rule.Describes settings) {txId : Int}
    {resolution : Except PyError (Transaction × α)} {notes : String} :
    writtenNotes settings store txId resolution = some notes ↔
      ∃ cached text, rule.Writes store txId resolution cached text ∧
        notes = below (cached.notes.getD "") text := by
  cases resolution with
  | error failure => simp [writtenNotes, NoteRule.Writes]
  | ok selected =>
    obtain ⟨tx, evidence⟩ := selected
    constructor
    · intro written
      rw [writtenNotes] at written
      split_ifs at written with named
      cases built : Evidence.buildTxUpdate settings.lower evidence tx with
      | error failure => simp [built] at written
      | ok payload =>
        rw [built] at written
        obtain ⟨adds, text, printed, same⟩ := (describes.notes built).mp written
        exact ⟨tx, text, ⟨evidence, rfl, named.1, named.2, describes.builds.mp ⟨payload, built⟩, adds,
          printed⟩, same⟩
    · rintro ⟨cached, text, ⟨other, same, named, known, builds, adds, printed⟩, rfl⟩
      obtain ⟨rfl, rfl⟩ := Prod.mk.inj (Except.ok.inj same)
      obtain ⟨payload, built⟩ := (@describes.builds tx evidence).mpr builds
      rw [writtenNotes, if_pos ⟨named, known⟩, built]
      exact (describes.notes built).mpr ⟨adds, text, printed, rfl⟩

theorem writtenNotes_eq_none (describes : rule.Describes settings) {txId : Int}
    {resolution : Except PyError (Transaction × α)} :
    writtenNotes settings store txId resolution = none ↔
      ∀ cached text, ¬ rule.Writes store txId resolution cached text := by
  rw [Option.eq_none_iff_forall_ne_some]
  constructor
  · exact fun silent cached text writes =>
      silent _ ((writtenNotes_eq_some describes).mpr ⟨cached, text, writes, rfl⟩)
  · intro silent notes written
    obtain ⟨cached, text, writes, -⟩ := (writtenNotes_eq_some describes).mp written
    exact silent cached text writes

theorem successes_holdTexts (describes : rule.Describes settings) {txId : Int} {notes : String} :
    (∀ (place : Nat) tx evidence, resolutions[place]? = some (.ok (tx, evidence)) → tx.id = txId →
        (attemptAll settings .reliable store resolutions).2[place]? = some none →
        ∃ text, rule.text evidence = .ok text ∧
          OccursIn (settings.lower text) (settings.lower notes)) ↔
      HoldsTexts settings rule store resolutions txId notes := by
  constructor
  · intro holds tx evidence text member named known builds printed
    obtain ⟨place, placed⟩ := List.mem_iff_getElem?.mp member
    obtain ⟨other, otherPrinted, occurs⟩ := holds place tx evidence placed named
      ((attemptAll_succeeds placed).mpr ⟨describes.builds.mpr builds, named ▸ known⟩)
    obtain rfl := Except.ok.inj (printed.symm.trans otherPrinted)
    exact occurs
  · intro holds place tx evidence placed named succeeded
    obtain ⟨built, known⟩ := (attemptAll_succeeds placed).mp succeeded
    have builds := describes.builds.mp built
    obtain ⟨text, printed⟩ := describes.prints builds
    exact ⟨text, printed,
      holds tx evidence text (List.mem_of_getElem? placed) named (named ▸ known) builds printed⟩

theorem keepsNotes_iff (describes : rule.Describes settings) :
    KeepsNotes settings rule store (attemptAll settings .reliable store resolutions).1 resolutions
        (fun place => (attemptAll settings .reliable store resolutions).2[place]? = some none) ↔
      LastWriteHoldsAll settings rule store resolutions := by
  unfold KeepsNotes LastWriteHoldsAll
  refine forall_congr' fun txId => ?_
  rw [successes_holdTexts describes, attemptAll_notes]
  cases written : (resolutions.filterMap (writtenNotes settings store txId)).getLast? with
  | none =>
    have nothing := List.filterMap_eq_nil_iff.mp (List.getLast?_eq_none_iff.mp written)
    rw [Option.getD_none, and_iff_right (occursIn_refl _)]
    constructor
    · intro holds
      refine ⟨?_, fun _ => holds⟩
      intro before resolution after cached text split writes
      exact absurd writes ((writtenNotes_eq_none describes).mp (nothing resolution (by simp [split])) _ _)
    · exact fun holds => holds.2 fun resolution member =>
        (writtenNotes_eq_none describes).mp (nothing resolution member)
  | some final =>
    obtain ⟨before, resolution, after, split, stored, last⟩ := getLast?_filterMap_eq_some.mp written
    obtain ⟨cached, text, writes, rfl⟩ := (writtenNotes_eq_some describes).mp stored
    rw [Option.getD_some]
    constructor
    · intro holds
      refine ⟨?_, fun nothing => absurd writes (nothing resolution (by simp [split]) cached text)⟩
      intro first other second otherCached otherText otherSplit otherWrites otherLast
      have same : some (below (cached.notes.getD "") text) =
          some (below (otherCached.notes.getD "") otherText) :=
        written.symm.trans (getLast?_filterMap_eq_some.mpr ⟨first, other, second, otherSplit,
          (writtenNotes_eq_some describes).mpr ⟨_, _, otherWrites, rfl⟩,
          fun later member => (writtenNotes_eq_none describes).mpr (otherLast later member)⟩)
      exact Option.some.inj same ▸ holds
    · exact fun holds => holds.1 before resolution after cached text split writes fun later member =>
        (writtenNotes_eq_none describes).mp (last later member)

omit [Evidence α] in
theorem lastWriteHoldsAll_single {tx : Transaction} {evidence : α} {text : String}
    (builds : rule.builds evidence) (adds : rule.adds tx evidence)
    (printed : rule.text evidence = .ok text)
    (stored : OccursIn (store.notesOf tx.id) (below (tx.notes.getD "") text))
    (holds : OccursIn (settings.lower text) (settings.lower (below (tx.notes.getD "") text))) :
    LastWriteHoldsAll settings rule store [.ok (tx, evidence)] := by
  intro txId
  constructor
  · rintro before resolution after cached other split
      ⟨selected, resolved, named, known, -, -, otherPrinted⟩ -
    have only : resolution = .ok (tx, evidence) :=
      List.mem_singleton.mp (split ▸ List.mem_append_right before List.mem_cons_self)
    obtain ⟨rfl, rfl⟩ := Prod.mk.inj (Except.ok.inj (only.symm.trans resolved))
    obtain rfl := Except.ok.inj (printed.symm.trans otherPrinted)
    refine ⟨named ▸ stored, ?_⟩
    intro other selected otherText member _ _ _ shown
    obtain ⟨-, rfl⟩ := Prod.mk.inj (Except.ok.inj (List.mem_singleton.mp member))
    obtain rfl := Except.ok.inj (printed.symm.trans shown)
    exact holds
  · intro nothing other selected otherText member named known _ _
    obtain ⟨rfl, rfl⟩ := Prod.mk.inj (Except.ok.inj (List.mem_singleton.mp member))
    exact absurd ⟨selected, rfl, named, known, builds, adds, printed⟩
      (nothing _ (List.mem_singleton_self _) other text)

end Notes

section Rules

variable {settings : Settings}

theorem addLine_eq (notes : Option String) (text : String) :
    addLine notes text = below (notes.getD "") text := by
  cases notes <;> simp [addLine, below]

-- The text of a bank record is printed below the notes in any case.
def BankRecord.noteRule : NoteRule BankRecord where
  text record := record.prettyPrint true
  builds record := record.isWritable = true
  adds _ _ := True

-- The details of a payment are added where the notes do not hold them, letter case aside.
def AllegroOrderPayment.noteRule (settings : Settings) : NoteRule AllegroOrderPayment where
  text payment := .ok payment.flattenDetails
  builds payment := payment.flattenDetails ≠ ""
  adds tx payment := tx.notes.getD "" = "" ∨
    ¬ OccursIn (settings.lower payment.flattenDetails) (settings.lower (tx.notes.getD ""))

theorem BankRecord.noteRule_describes : BankRecord.noteRule.Describes settings where
  builds := BankRecord.buildTxUpdate_ok_iff
  prints {record} builds := by
    have writable : record.isWritable = true := builds
    simp only [isWritable, Bool.and_eq_true, Bool.not_eq_true'] at writable
    exact prettyPrint_ok_iff.mpr ⟨writable.1.2, writable.2⟩
  notes {tx record payload notes} built := by
    obtain ⟨-, printed, -, shows, rfl⟩ := BankRecord.buildTxUpdate_ok.mp built
    change some (addLine tx.notes printed) = some notes ↔
      True ∧ ∃ text, record.prettyPrint true = .ok text ∧ notes = below (tx.notes.getD "") text
    rw [addLine_eq]
    simp [shows, eq_comm]

theorem AllegroOrderPayment.noteRule_describes :
    (AllegroOrderPayment.noteRule settings).Describes settings where
  builds {tx payment} := by
    constructor
    · rintro ⟨payload, built⟩
      exact (OrderPayment.buildTxUpdate_ok.mp built).1
    · exact fun present => ⟨_, OrderPayment.buildTxUpdate_ok.mpr ⟨present, rfl⟩⟩
  prints _ := ⟨_, rfl⟩
  notes {tx payment payload notes} built := by
    rw [(OrderPayment.buildTxUpdate_ok.mp built).2]
    change payment.toOrderPayment.newNotes settings.lower tx = some notes ↔
      (tx.notes.getD "" = "" ∨
        ¬ OccursIn (settings.lower payment.flattenDetails) (settings.lower (tx.notes.getD ""))) ∧
      ∃ text, Except.ok payment.flattenDetails = Except.ok text ∧ notes = below (tx.notes.getD "") text
    unfold OrderPayment.newNotes
    cases tx.notes with
    | none => simp [addLine_eq, eq_comm]
    | some text =>
      by_cases empty : text = ""
      · simp [empty, addLine_eq, eq_comm]
      · by_cases held : OccursIn (settings.lower payment.flattenDetails) (settings.lower text) <;>
          simp [empty, held, addLine_eq, eq_comm]

end Rules

theorem zipWith_success {δ ω : Type} {outcome : δ → Option PyError → ω} {status : ω → OutcomeStatus}
    (reported : ∀ decision failure, status (outcome decision failure) = .success ↔ failure = none)
    {decisions : List δ} {failures : List (Option PyError)}
    (aligned : failures.length = decisions.length) (place : Nat) :
    (∃ entry, (List.zipWith outcome decisions failures)[place]? = some entry ∧
        status entry = .success) ↔ failures[place]? = some none := by
  rw [List.getElem?_zipWith]
  cases failed : failures[place]? with
  | none => cases decisions[place]? <;> simp
  | some failure =>
    have bound : place < decisions.length := aligned ▸ (List.getElem?_eq_some_iff.mp failed).1
    simp [List.getElem?_eq_getElem bound, reported]

def Blik.ReportsSuccess (job : Blik.ApplyJob) (place : Nat) : Prop :=
  ∃ outcome, job.results[place]? = some outcome ∧ outcome.status = .success

def Allegro.ReportsSuccess (job : Allegro.ApplyJob) (place : Nat) : Prop :=
  ∃ outcome, job.results[place]? = some outcome ∧ outcome.status = .success

theorem Blik.outcomeOf_success (decision : Blik.MatchDecision) (failure : Option PyError) :
    (Blik.outcomeOf decision failure).status = .success ↔ failure = none := by
  cases failure <;> simp [Blik.outcomeOf]

theorem Allegro.outcomeOf_success (decision : Allegro.MatchDecision) (failure : Option PyError) :
    (Allegro.outcomeOf decision failure).status = .success ↔ failure = none := by
  cases failure <;> simp [Allegro.outcomeOf]

theorem Blik.runApplyJob_keepsNotes {digest : String → String} {settings : Settings}
    {task : Blik.RunningJob} (fresh : task.job.results = []) (firefly : FireflyStore)
    (finishedAt : Time) :
    let selected := Blik.resolutions digest task.results task.decisions
    let ended := Blik.runApplyJob digest settings .reliable task firefly finishedAt
    KeepsNotes settings BankRecord.noteRule firefly ended.1 selected (ReportsSuccess ended.2) ↔
      LastWriteHoldsAll settings BankRecord.noteRule firefly selected := by
  intro selected ended
  have attempts := Blik.applyDecisions_attempts digest settings .reliable task.results firefly
    task.decisions
  have store : ended.1 = (attemptAll settings .reliable firefly selected).1 :=
    congrArg Prod.fst attempts
  have results : ended.2.results = List.zipWith Blik.outcomeOf task.decisions
      (attemptAll settings .reliable firefly selected).2 := by
    have reports := congrArg Prod.snd attempts
    simpa [ended, Blik.runApplyJob, fresh] using reports
  have aligned : (attemptAll settings .reliable firefly selected).2.length =
      task.decisions.length := by
    rw [attemptAll_length]
    exact List.length_map _
  have successes : ReportsSuccess ended.2 = fun place =>
      (attemptAll settings .reliable firefly selected).2[place]? = some none := by
    funext place
    rw [ReportsSuccess, results]
    exact propext (zipWith_success Blik.outcomeOf_success aligned place)
  rw [store, successes, keepsNotes_iff BankRecord.noteRule_describes]

theorem Allegro.runApplyJob_keepsNotes {settings : Settings} {task : Allegro.RunningJob}
    (fresh : task.job.results = []) (firefly : FireflyStore) (finishedAt : Time) :
    let selected := Allegro.resolutions task.results task.decisions
    let ended := Allegro.runApplyJob settings .reliable task firefly finishedAt
    KeepsNotes settings (AllegroOrderPayment.noteRule settings) firefly ended.firefly selected
        (ReportsSuccess ended.job) ↔
      LastWriteHoldsAll settings (AllegroOrderPayment.noteRule settings) firefly selected := by
  intro selected ended
  have store : ended.firefly = (attemptAll settings .reliable firefly selected).1 :=
    Allegro.runApplyJob_firefly settings .reliable task firefly finishedAt
  have results := Allegro.runApplyJob_results settings .reliable task firefly finishedAt fresh
  have aligned : (attemptAll settings .reliable firefly selected).2.length =
      task.decisions.length := by
    rw [attemptAll_length]
    exact List.length_map _
  have successes : ReportsSuccess ended.job = fun place =>
      (attemptAll settings .reliable firefly selected).2[place]? = some none := by
    funext place
    rw [ReportsSuccess, results]
    exact propext (zipWith_success Allegro.outcomeOf_success aligned place)
  rw [store, successes, keepsNotes_iff AllegroOrderPayment.noteRule_describes]

-- The notes survive a job whose every update succeeds where, for each transaction, the cached notes
-- with the text that is written last hold the stored notes and the texts of all its decisions.
theorem applyJob_keepsNotes_iff (settings : Settings) (firefly : FireflyStore) (jobId : UUID)
    (now finishedAt : Time) :
    (∀ (digest : String → String) (store next : Blik.StateStore) (encodedId : String)
      (decisions : List Blik.MatchDecision) (task : Blik.RunningJob),
      Blik.startApplyJob store encodedId decisions jobId now = .ok (next, task) →
      let selected := Blik.resolutions digest (store.getMatches encodedId) decisions
      let ended := Blik.runApplyJob digest settings .reliable task firefly finishedAt
      KeepsNotes settings BankRecord.noteRule firefly ended.1 selected
          (Blik.ReportsSuccess ended.2) ↔
        LastWriteHoldsAll settings BankRecord.noteRule firefly selected) ∧
    (∀ (store next : Allegro.StateStore) (secretId : UUID) (decisions : List Allegro.MatchDecision)
      (task : Allegro.RunningJob),
      Allegro.startApplyJob store secretId decisions jobId now = .ok (next, task) →
      let selected := Allegro.resolutions (store.getAllMatches secretId) decisions
      let ended := Allegro.runApplyJob settings .reliable task firefly finishedAt
      KeepsNotes settings (AllegroOrderPayment.noteRule settings) firefly ended.firefly selected
          (Allegro.ReportsSuccess ended.job) ↔
        LastWriteHoldsAll settings (AllegroOrderPayment.noteRule settings) firefly selected) := by
  constructor
  · intro digest store next encodedId decisions task started
    obtain ⟨-, created, rfl, cached⟩ := Blik.startApplyJob_ok.mp started
    rw [← cached]
    have fresh : task.job.results = [] := congrArg (fun made => made.2.results) created.symm
    exact Blik.runApplyJob_keepsNotes fresh firefly finishedAt
  · intro store next secretId decisions task started
    obtain ⟨-, created, rfl, cached⟩ := Allegro.startApplyJob_ok.mp started
    rw [← cached]
    have fresh : task.job.results = [] := congrArg (fun made => made.2.results) created.symm
    exact Allegro.runApplyJob_keepsNotes fresh firefly finishedAt

namespace Sample

open Allegro.Sample

def receipt : BankRecord := Blik.Sample.row "order" twelfth (cents 1000)

def receiptResult : MatchResult BankRecord := ⟨bought, [receipt], .new⟩

def receiptStore : Blik.StateStore := Blik.StateStore.initial.putMatches "file" [receiptResult]

def receiptText : String := "7|2025-01-12|10.00|10.00|Shop|order||PLN|PLN||"

def receiptPrint : String :=
  "date: 2025-01-12\namount: 10.00 PLN\ndetails: order\nrecipient: Shop\noperation_amount: 10.00 PLN"

def receiptJob (digest : String → String) : Blik.RunningJob :=
  let decisions : List Blik.MatchDecision := [⟨7, digest receiptText⟩]
  ⟨(receiptStore.createJob ⟨9⟩ "file" decisions.length 0).2, decisions, [receiptResult]⟩

theorem receiptJob_selects (digest : String → String) :
    Blik.resolutions digest [receiptResult] (receiptJob digest).decisions =
      [.ok (bought, receipt)] := by
  have joined : Blik.matchIdPayload 7 receipt = .ok receiptText := by decide
  have named : Blik.buildBlikMatchId digest 7 receipt = .ok (digest receiptText) := by
    rw [Blik.buildBlikMatchId, joined]
    rfl
  have offered : (Dict.indexBy (Blik.buildBlikMatchId digest 7) [receipt]).get?
      (.ok (digest receiptText)) = some receipt :=
    Dict.get?_indexBy_eq_some.mpr ⟨[], [], rfl, named, by simp⟩
  have texts : ∀ candidate ∈ receiptResult.txMatches, none ∉ Blik.textFields candidate := by decide
  have resolved : Blik.resolveDecision digest (Blik.matchIndex [receiptResult])
      ⟨7, digest receiptText⟩ = .ok (bought, receipt) :=
    (Blik.resolveDecision_ok digest).mpr
      ⟨receiptResult, rfl, rfl, (Blik.findSelectedMatch_ok digest).mpr ⟨texts, offered⟩⟩
  rw [Blik.resolutions, receiptJob, List.map_singleton, resolved]

def earlyAndAlike : List AllegroOrderPayment :=
  [payment "early" tenth (cents 1000), payment "alike" eleventh (cents 1000)]

def sharedPage : Allegro.StateStore :=
  Allegro.cacheStep settings Allegro.StateStore.initial
    (.previewPage secret Allegro.PageRequest.default earlyAndAlike account)

def sharedJob (decisions : List Allegro.MatchDecision) : Allegro.RunningJob :=
  ⟨(sharedPage.createJob ⟨9⟩ secret decisions.length 0).2, decisions,
    [⟨bought, earlyAndAlike, .new⟩]⟩

end Sample

theorem applyJob_keepsNotes_single :
    (∀ digest : String → String,
      let ended := Blik.runApplyJob digest Sample.settings .reliable (Sample.receiptJob digest)
        Allegro.Sample.account 0
      KeepsNotes Sample.settings BankRecord.noteRule Allegro.Sample.account ended.1
        [.ok (Allegro.Sample.bought, Sample.receipt)] (Blik.ReportsSuccess ended.2)) ∧
    let ended := Allegro.runApplyJob Sample.settings .reliable
      (Sample.sharedJob [Allegro.Sample.decision]) Allegro.Sample.account 0
    KeepsNotes Sample.settings (AllegroOrderPayment.noteRule Sample.settings) Allegro.Sample.account
      ended.firefly [.ok (Allegro.Sample.bought, Allegro.Sample.early)]
      (Allegro.ReportsSuccess ended.job) := by
  constructor
  · intro digest
    have settled := (applyJob_keepsNotes_iff Sample.settings Allegro.Sample.account ⟨9⟩ 0 0).1 digest
      Sample.receiptStore _ "file" (Sample.receiptJob digest).decisions (Sample.receiptJob digest) rfl
    have cached : Sample.receiptStore.getMatches "file" = [Sample.receiptResult] := rfl
    rw [cached, Sample.receiptJob_selects] at settled
    have printed : Sample.receipt.prettyPrint true = .ok Sample.receiptPrint := by decide
    exact settled.mpr (lastWriteHoldsAll_single rfl trivial printed (empty_occursIn _) (occursIn_refl _))
  · have settled := (applyJob_keepsNotes_iff Sample.settings Allegro.Sample.account ⟨9⟩ 0 0).2
      Sample.sharedPage _ Allegro.Sample.secret [Allegro.Sample.decision]
      (Sample.sharedJob [Allegro.Sample.decision]) rfl
    have builds : Allegro.Sample.early.flattenDetails ≠ "" := by decide
    exact settled.mpr
      (lastWriteHoldsAll_single builds (.inl rfl) rfl (empty_occursIn _) (occursIn_refl _))

-- The second success replaces the notes that the first one wrote.
theorem applyJob_erases_notes :
    let decisions : List Allegro.MatchDecision := [⟨"early", 7⟩, ⟨"alike", 7⟩]
    let ended := Allegro.runApplyJob Sample.settings .reliable (Sample.sharedJob decisions)
      Allegro.Sample.account 0
    (Allegro.cacheMachine Sample.settings).run Allegro.StateStore.initial
        [.previewPage Allegro.Sample.secret Allegro.PageRequest.default Sample.earlyAndAlike
          Allegro.Sample.account] = some Sample.sharedPage ∧
      Allegro.startApplyJob Sample.sharedPage Allegro.Sample.secret decisions ⟨9⟩ 0 =
        .ok ((Sample.sharedPage.createJob ⟨9⟩ Allegro.Sample.secret 2 0).1,
          Sample.sharedJob decisions) ∧
      ended.firefly.notesOf 7 = "Buyer: anna\nOrder alike" ∧
      ¬ KeepsNotes Sample.settings (AllegroOrderPayment.noteRule Sample.settings) Allegro.Sample.account
        ended.firefly (Allegro.resolutions (Sample.sharedPage.getAllMatches Allegro.Sample.secret)
          decisions) (Allegro.ReportsSuccess ended.job) := by
  refine ⟨rfl, rfl, by decide, fun keeps => ?_⟩
  obtain ⟨text, printed, held⟩ :=
    (keeps 7).2 0 Allegro.Sample.bought Allegro.Sample.early rfl rfl ⟨_, rfl, rfl⟩
  obtain rfl := Except.ok.inj printed
  exact absurd held (by decide)

end FireflyToolkit
