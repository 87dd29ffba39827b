import FireflyToolkit.Allegro.CachedPages
import FireflyToolkit.Blik.Application

set_option autoImplicit false

namespace FireflyToolkit

open OrderedDict PyBuiltins Transition

inductive PendingWrite
  | addTag (tx : Transaction) (tag : String)
  | applyCategory (tx : Transaction) (categoryId : Int)

-- A running job is the list of its decisions still to be worked on, as they resolve in the matches
-- it was started with. `acknowledged` records the tags whose write Firefly confirmed.
structure World where
  firefly : FireflyStore
  blik : Blik.StateStore
  allegro : Allegro.StateStore
  blikJobs : List (List (Except PyError (Transaction × BankRecord)))
  allegroJobs : List (List (Except PyError (Transaction × AllegroOrderPayment)))
  writes : List PendingWrite
  acknowledged : List (Int × String)

def World.initial (firefly : FireflyStore) : World :=
  ⟨firefly, Blik.StateStore.initial, Allegro.StateStore.initial, [], [], [], []⟩

inductive ClientLabel
  | previewFile (encodedId decoded : String) (csvRecords : List BankRecord)
  | previewPage (secretId : UUID) (page : Allegro.PageRequest) (payments : List AllegroOrderPayment)
  | startBlikJob (encodedId : String) (decisions : List Blik.MatchDecision) (jobId : UUID) (now : Time)
  | startAllegroJob (secretId : UUID) (decisions : List Allegro.MatchDecision) (jobId : UUID)
      (now : Time)
  | autoApplyFile (encodedId : String) (limit : Option Int) (jobId : UUID) (now : Time)
  | autoApplySecret (secretId : UUID) (limit : Option Int) (jobId : UUID) (now : Time)
  | applyBlik (place : Nat)
  | applyAllegro (place : Nat)
  | addTagById (txId : Int) (tag : String)
  | applyCategoryById (txId categoryId : Int)
  | write (place : Nat)

section Steps

variable (settings : Settings) (digest : String → String)

def World.spawnBlik (world : World) :
    Except PyError (Blik.StateStore × Blik.RunningJob) → World
  | .ok (next, task) =>
      { world with
        blik := next
        blikJobs := world.blikJobs ++ [Blik.resolutions digest task.results task.decisions] }
  | .error _ => world

def World.spawnAllegro (world : World) :
    Except PyError (Allegro.StateStore × Allegro.RunningJob) → World
  | .ok (next, task) =>
      { world with
        allegro := next
        allegroJobs := world.allegroJobs ++ [Allegro.resolutions task.results task.decisions] }
  | .error _ => world

section Attempt

variable {α : Type} [Evidence α]

def World.afterAttempt (world : World) (resolution : Except PyError (Transaction × α)) : World :=
  let (firefly, failure) :=
    FireflyEnrichmentService.attempt settings .reliable world.firefly resolution
  match resolution, failure with
  | .ok (tx, evidence), none =>
      { world with
        firefly := firefly
        acknowledged := world.acknowledged ++ [(tx.id, (Evidence.tagDone evidence).value)] }
  | _, _ => { world with firefly := firefly }

end Attempt

def World.afterWrite (world : World) : PendingWrite → World
  | .addTag tx tag =>
      match FireflyTxService.addTag .reliable world.firefly tx tag with
      | .ok next =>
          { world with
            firefly := next
            acknowledged := world.acknowledged ++ [(tx.id, tag)] }
      | .error _ => world
  | .applyCategory tx categoryId =>
      match FireflyTxService.applyCategory .reliable world.firefly tx categoryId with
      | .ok next => { world with firefly := next }
      | .error _ => world

def clientStep (world : World) : ClientLabel → Option World
  | .previewFile encodedId decoded csvRecords =>
      let (next, _) := Blik.previewMatches digest settings world.blik world.firefly.reader encodedId
        decoded csvRecords
      some { world with blik := next }
  | .previewPage secretId page payments =>
      match Allegro.previewPage settings world.allegro world.firefly secretId page payments with
      | .ok (next, _) => some { world with allegro := next }
      | .error _ => some world
  | .startBlikJob encodedId decisions jobId now =>
      some (world.spawnBlik digest (Blik.startApplyJob world.blik encodedId decisions jobId now))
  | .startAllegroJob secretId decisions jobId now =>
      some (world.spawnAllegro (Allegro.startApplyJob world.allegro secretId decisions jobId now))
  | .autoApplyFile encodedId limit jobId now =>
      some (world.spawnBlik digest
        (Blik.startAutoApplySingleMatches digest world.blik encodedId limit jobId now))
  | .autoApplySecret secretId limit jobId now =>
      some (world.spawnAllegro
        (Allegro.startAutoApplySingleMatches world.allegro secretId limit jobId now))
  | .applyBlik place =>
      match world.blikJobs[place]? with
      | some (resolution :: rest) =>
          some { world.afterAttempt settings resolution with
            blikJobs := world.blikJobs.set place rest }
      | _ => none
  | .applyAllegro place =>
      match world.allegroJobs[place]? with
      | some (resolution :: rest) =>
          some { world.afterAttempt settings resolution with
            allegroJobs := world.allegroJobs.set place rest }
      | _ => none
  | .addTagById txId tag =>
      match FireflyTxService.getTransaction world.firefly txId with
      | .ok tx => some { world with writes := world.writes ++ [.addTag tx tag] }
      | .error _ => some world
  | .applyCategoryById txId categoryId =>
      match FireflyTxService.getTransaction world.firefly txId with
      | .ok tx => some { world with writes := world.writes ++ [.applyCategory tx categoryId] }
      | .error _ => some world
  | .write place =>
      match world.writes[place]? with
      | some pending =>
          some { world.afterWrite pending with writes := world.writes.eraseIdx place }
      | none => none

def clientMachine : Machine World ClientLabel := ⟨clientStep settings digest⟩

def tagWrite (world : World) : ClientLabel → Option (Transaction × String)
  | .applyBlik place =>
      match world.blikJobs[place]? with
      | some (.ok (tx, record) :: _) =>
          if record.isWritable then some (tx, TxTag.blik_done.value) else none
      | _ => none
  | .applyAllegro place =>
      match world.allegroJobs[place]? with
      | some (.ok (tx, payment) :: _) =>
          if payment.flattenDetails = "" then none else some (tx, payment.tagDone.value)
      | _ => none
  | .write place =>
      match world.writes[place]? with
      | some (.addTag tx tag) => some (tx, tag)
      | _ => none
  | _ => none

-- The stored tags are in the copy that the step writes back, or are the tag it adds.
def CopyIsCurrent (world : World) (label : ClientLabel) : Prop :=
  ∀ tx tag, tagWrite world label = some (tx, tag) →
    world.firefly.tagsOf tx.id ⊆ insert tag tx.tags

def TagEffect (world : World) (sent : Option (Transaction × String)) (next : World) : Prop :=
  (∃ tx tag, sent = some (tx, tag) ∧ next.acknowledged = world.acknowledged ++ [(tx.id, tag)] ∧
      ∀ txId, next.firefly.tagsOf txId =
        if txId = tx.id then insert tag tx.tags else world.firefly.tagsOf txId) ∨
    (∀ tx tag, sent = some (tx, tag) → world.firefly.knows tx.id = false) ∧
      next.acknowledged = world.acknowledged ∧
      ∀ txId, next.firefly.tagsOf txId = world.firefly.tagsOf txId

variable {settings} {digest}

theorem TagEffect.silent {world next : World} (acknowledged : next.acknowledged = world.acknowledged)
    (firefly : next.firefly = world.firefly) : TagEffect world none next :=
  .inr ⟨by simp, acknowledged, fun _ => by rw [firefly]⟩

theorem afterAttempt_effect {α : Type} [Evidence α] {world : World} {tx : Transaction}
    {evidence : α} {sent : Option (Transaction × String)}
    (tagged : ∀ payload, Evidence.buildTxUpdate settings.lower evidence tx = .ok payload →
      sent = some (tx, (Evidence.tagDone evidence).value))
    (untagged : sent ≠ none → sent = some (tx, (Evidence.tagDone evidence).value) ∧
      ∃ payload, Evidence.buildTxUpdate settings.lower evidence tx = .ok payload) :
    TagEffect world sent (world.afterAttempt settings (.ok (tx, evidence))) := by
  rcases FireflyEnrichmentService.attempt_reliable world.firefly tx evidence with
    ⟨payload, built, known, written⟩ | ⟨unknown, failure, refused⟩
  · refine .inl ⟨tx, (Evidence.tagDone evidence).value, tagged payload built, ?_, ?_⟩
    · simp only [World.afterAttempt, written]
    · intro txId
      simp only [World.afterAttempt, written]
      rw [FireflyStore.tagsOf_replace known, Evidence.payload_tags built]
      rfl
  · refine .inr ⟨?_, by simp only [World.afterAttempt, refused], fun txId => by
      simp only [World.afterAttempt, refused]⟩
    intro other tag same
    obtain ⟨equal, payload, built⟩ := untagged (by rw [same]; simp)
    rw [equal] at same
    rw [← (Prod.mk.inj (Option.some.inj same)).1]
    exact unknown payload built

def PendingWrite.tagWrite : PendingWrite → Option (Transaction × String)
  | .addTag tx tag => some (tx, tag)
  | .applyCategory _ _ => none

theorem afterWrite_effect (world : World) (pending : PendingWrite) :
    TagEffect world pending.tagWrite (world.afterWrite pending) := by
  cases pending with
  | addTag tx tag =>
    cases added : FireflyTxService.addTag .reliable world.firefly tx tag with
    | ok next =>
      obtain ⟨known, rfl⟩ := FireflyTxService.addTag_reliable.mp added
      refine .inl ⟨tx, tag, rfl, by simp only [World.afterWrite, added], fun txId => ?_⟩
      simp only [World.afterWrite, added]
      rw [FireflyStore.tagsOf_replace known]
      rfl
    | error failure =>
      refine .inr ⟨?_, by simp only [World.afterWrite, added], fun txId => by
        simp only [World.afterWrite, added]⟩
      intro other otherTag same
      obtain ⟨rfl, rfl⟩ := Prod.mk.inj (Option.some.inj same)
      by_contra known
      have succeeds : FireflyTxService.addTag .reliable world.firefly tx tag = .ok _ :=
        FireflyTxService.addTag_reliable.mpr ⟨by simpa using known, rfl⟩
      rw [added] at succeeds
      cases succeeds
  | applyCategory tx categoryId =>
    cases applied : FireflyTxService.applyCategory .reliable world.firefly tx categoryId with
    | ok next =>
      refine .inr ⟨by simp [PendingWrite.tagWrite], by simp only [World.afterWrite, applied], ?_⟩
      intro txId
      simp only [World.afterWrite, applied]
      exact FireflyTxService.applyCategory_tags applied txId
    | error failure =>
      exact .silent (by simp only [World.afterWrite, applied])
        (by simp only [World.afterWrite, applied])

theorem applyBlik_effect {world next : World} {place : Nat}
    (stepped : clientStep settings digest world (.applyBlik place) = some next) :
    TagEffect world (tagWrite world (.applyBlik place)) next := by
  simp only [clientStep] at stepped
  split at stepped
  next resolution rest running =>
    rw [← Option.some.inj stepped]
    cases resolution with
    | error failure =>
      have sent : tagWrite world (.applyBlik place) = none := by simp [tagWrite, running]
      rw [sent]
      exact .silent rfl rfl
    | ok selected =>
      obtain ⟨tx, record⟩ := selected
      have sent : tagWrite world (.applyBlik place) =
          if record.isWritable then some (tx, TxTag.blik_done.value) else none := by
        simp [tagWrite, running]
      rw [sent]
      refine afterAttempt_effect ?_ ?_
      · intro payload built
        exact if_pos (BankRecord.buildTxUpdate_ok_iff.mp ⟨payload, built⟩)
      · intro written
        split_ifs at written ⊢ with writable
        · exact ⟨rfl, BankRecord.buildTxUpdate_ok_iff.mpr writable⟩
        · exact absurd rfl written
  next => cases stepped

theorem applyAllegro_effect {world next : World} {place : Nat}
    (stepped : clientStep settings digest world (.applyAllegro place) = some next) :
    TagEffect world (tagWrite world (.applyAllegro place)) next := by
  simp only [clientStep] at stepped
  split at stepped
  next resolution rest running =>
    rw [← Option.some.inj stepped]
    cases resolution with
    | error failure =>
      have sent : tagWrite world (.applyAllegro place) = none := by simp [tagWrite, running]
      rw [sent]
      exact .silent rfl rfl
    | ok selected =>
      obtain ⟨tx, payment⟩ := selected
      have sent : tagWrite world (.applyAllegro place) =
          if payment.flattenDetails = "" then none else some (tx, payment.tagDone.value) := by
        simp [tagWrite, running]
      rw [sent]
      refine afterAttempt_effect ?_ ?_
      · intro payload built
        exact if_neg (OrderPayment.buildTxUpdate_ok.mp built).1
      · intro written
        split_ifs at written ⊢ with blank
        · exact absurd rfl written
        · exact ⟨rfl, _, OrderPayment.buildTxUpdate_ok.mpr ⟨blank, rfl⟩⟩
  next => cases stepped

theorem clientStep_effect {world next : World} {label : ClientLabel}
    (stepped : clientStep settings digest world label = some next) :
    TagEffect world (tagWrite world label) next := by
  cases label with
  | previewFile encodedId decoded csvRecords =>
    rw [← Option.some.inj stepped]
    exact .silent rfl rfl
  | previewPage secretId page payments =>
    simp only [clientStep] at stepped
    split at stepped <;> rw [← Option.some.inj stepped] <;> exact .silent rfl rfl
  | startBlikJob encodedId decisions jobId now =>
    rw [← Option.some.inj stepped, World.spawnBlik.eq_def]
    split <;> exact .silent rfl rfl
  | startAllegroJob secretId decisions jobId now =>
    rw [← Option.some.inj stepped, World.spawnAllegro.eq_def]
    split <;> exact .silent rfl rfl
  | autoApplyFile encodedId limit jobId now =>
    rw [← Option.some.inj stepped, World.spawnBlik.eq_def]
    split <;> exact .silent rfl rfl
  | autoApplySecret secretId limit jobId now =>
    rw [← Option.some.inj stepped, World.spawnAllegro.eq_def]
    split <;> exact .silent rfl rfl
  | applyBlik place => exact applyBlik_effect stepped
  | applyAllegro place => exact applyAllegro_effect stepped
  | addTagById txId tag =>
    simp only [clientStep] at stepped
    split at stepped <;> rw [← Option.some.inj stepped] <;> exact .silent rfl rfl
  | applyCategoryById txId categoryId =>
    simp only [clientStep] at stepped
    split at stepped <;> rw [← Option.some.inj stepped] <;> exact .silent rfl rfl
  | write place =>
    simp only [clientStep] at stepped
    split at stepped
    next pending listed =>
      rw [← Option.some.inj stepped]
      have sent : tagWrite world (.write place) = pending.tagWrite := by
        cases pending <;> simp [tagWrite, listed, PendingWrite.tagWrite]
      rw [sent]
      exact afterWrite_effect world pending
    next => cases stepped

theorem tagWrite_enabled {world : World} {label : ClientLabel} {sent : Transaction × String}
    (writes : tagWrite world label = some sent) :
    ∃ next, clientStep settings digest world label = some next := by
  apply Option.isSome_iff_exists.mp
  cases label with
  | applyBlik place =>
    simp only [tagWrite] at writes
    split at writes
    next tx record rest running => simp [clientStep, running]
    next => cases writes
  | applyAllegro place =>
    simp only [tagWrite] at writes
    split at writes
    next tx payment rest running => simp [clientStep, running]
    next => cases writes
  | write place =>
    simp only [tagWrite] at writes
    split at writes
    next tx tag listed => simp [clientStep, listed]
    next => cases writes
  | _ => cases writes

def TagsGrow (early late : World) : Prop :=
  ∀ txId, early.firefly.tagsOf txId ⊆ late.firefly.tagsOf txId

theorem TagEffect.grows_iff {world next : World} {sent : Option (Transaction × String)}
    (effect : TagEffect world sent next) :
    TagsGrow world next ↔
      ∀ tx tag, sent = some (tx, tag) → world.firefly.tagsOf tx.id ⊆ insert tag tx.tags := by
  rcases effect with ⟨tx, tag, rfl, -, tags⟩ | ⟨unknown, -, tags⟩
  · constructor
    · intro grows other otherTag same
      obtain ⟨rfl, rfl⟩ := Prod.mk.inj (Option.some.inj same)
      have kept := grows tx.id
      rwa [tags, if_pos rfl] at kept
    · intro current txId
      rw [tags]
      split_ifs with named
      · exact named ▸ current tx tag rfl
      · exact Finset.Subset.refl _
  · refine iff_of_true (fun txId => ?_) (fun tx tag written => ?_)
    · rw [tags]
    · rw [FireflyStore.tagsOf_unknown (unknown tx tag written)]
      exact Finset.empty_subset _

theorem copyIsCurrent_iff (world : World) (label : ClientLabel) :
    (∀ next, (clientMachine settings digest).step world label = some next → TagsGrow world next) ↔
      CopyIsCurrent world label := by
  constructor
  · intro grows tx tag written
    obtain ⟨next, stepped⟩ := @tagWrite_enabled settings digest world label _ written
    exact (clientStep_effect stepped).grows_iff.mp (grows next stepped) tx tag written
  · intro current next stepped
    exact (clientStep_effect stepped).grows_iff.mpr current

def AcknowledgedStored (world : World) : Prop :=
  ∀ entry ∈ world.acknowledged, entry.2 ∈ world.firefly.tagsOf entry.1

theorem acknowledgedStored_step {world next : World} {label : ClientLabel}
    (stored : AcknowledgedStored world) (grows : TagsGrow world next)
    (stepped : clientStep settings digest world label = some next) : AcknowledgedStored next := by
  intro entry member
  rcases clientStep_effect stepped with ⟨tx, tag, -, acknowledged, tags⟩ | ⟨-, acknowledged, -⟩
  · rw [acknowledged] at member
    rcases List.mem_append.mp member with older | added
    · exact grows _ (stored entry older)
    · rw [List.mem_singleton.mp added, tags, if_pos rfl]
      exact Finset.mem_insert_self tag tx.tags
  · rw [acknowledged] at member
    exact grows _ (stored entry member)

end Steps

structure NoTagLost (settings : Settings) (digest : String → String) (firefly : FireflyStore)
    (labels : List ClientLabel) : Prop where
  grow : (clientMachine settings digest).Segments TagsGrow (World.initial firefly) labels
  acknowledged : ∀ before after reached, labels = before ++ after →
    (clientMachine settings digest).run (World.initial firefly) before = some reached →
    AcknowledgedStored reached

theorem noTagLost_iff (settings : Settings) (digest : String → String) (firefly : FireflyStore)
    (labels : List ClientLabel) :
    NoTagLost settings digest firefly labels ↔
      (clientMachine settings digest).Meets CopyIsCurrent (World.initial firefly) labels := by
  have grow : (clientMachine settings digest).Segments TagsGrow (World.initial firefly) labels ↔
      (clientMachine settings digest).Meets CopyIsCurrent (World.initial firefly) labels := by
    rw [Machine.segments_iff_meets (fun world txId => Finset.Subset.refl _)
      (fun first second txId => (first txId).trans (second txId))]
    constructor
    · exact Machine.Meets.imp fun world label => (copyIsCurrent_iff world label).mp
    · exact Machine.Meets.imp fun world label => (copyIsCurrent_iff world label).mpr
  refine ⟨fun kept => grow.mp kept.grow, fun meets => ⟨grow.mpr meets, ?_⟩⟩
  intro before after reached split onward
  rw [split] at meets
  refine Machine.invariant_of_meets ?_ ?_ (Machine.meets_append onward meets).1 onward
  · intro world label next stored current stepped
    exact acknowledgedStored_step stored ((copyIsCurrent_iff world label).mpr current next stepped)
      stepped
  · intro entry member
    cases member

namespace Sample

open Allegro.Sample

-- The payment is previewed, then a tag is added, then the payment is applied to the cached copy.
def lostTag : List ClientLabel :=
  [.previewPage secret Allegro.PageRequest.default [early], .addTagById 7 "checked", .write 0,
    .startAllegroJob secret [decision] ⟨9⟩ 0, .applyAllegro 0]

end Sample

theorem lostTag_loses_tag :
    ∃ final, (clientMachine Sample.settings id).run (World.initial Allegro.Sample.account)
        Sample.lostTag = some final ∧
      (7, "checked") ∈ final.acknowledged ∧ final.firefly.tagsOf 7 = {"allegro_done"} ∧
      ¬ NoTagLost Sample.settings id Allegro.Sample.account Sample.lostTag := by
  refine ⟨_, rfl, ?_, ?_, fun kept => ?_⟩
  · decide
  · decide
  · have stored := kept.acknowledged Sample.lostTag [] _ (by simp) rfl (7, "checked")
    exact absurd (stored (by decide)) (by decide)

end FireflyToolkit
