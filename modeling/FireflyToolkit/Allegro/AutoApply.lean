import FireflyToolkit.Allegro.CachedPages
import Mathlib.Data.List.Pairwise

set_option autoImplicit false

namespace FireflyToolkit.Allegro

open OrderedDict PyBuiltins Transition

def OfferedFor (store : StateStore) (secretId : UUID) (txId : Int) (externalId : String) : Prop :=
  ∃ result ∈ store.getAllMatches secretId, result.tx.id = txId ∧
    ∃ payment ∈ result.txMatches, payment.externalId = externalId

structure Unambiguous (store : StateStore) (secretId : UUID) (decisions : List MatchDecision) :
    Prop where
  oneCandidate : ∀ decision ∈ decisions,
    ∃! externalId, OfferedFor store secretId decision.transactionId externalId
  selectedOnce : (decisions.map MatchDecision.transactionId).Nodup

def Single (result : MatchResult AllegroOrderPayment) : Prop :=
  ∃ payment, result.txMatches = [payment]

def SamePayments (left right : MatchResult AllegroOrderPayment) : Prop :=
  ∀ payment ∈ left.txMatches, ∀ other ∈ right.txMatches, payment.externalId = other.externalId

-- Two pages agree on a transaction that one of them has a single candidate for: the other one
-- shows no candidate of its own, unless it shows the same payment several times.
def PagesAgree (left right : PageMatchCacheEntry) : Prop :=
  ∀ first ∈ left.results, ∀ second ∈ right.results, first.tx.id = second.tx.id →
    (Single first → ¬ Single second) ∧ (Single first ∨ Single second → SamePayments first second)

theorem pages_pairwise {store : StateStore} {secretId : UUID} (previewed : AllPreviewed store)
    {relation : MatchResult AllegroOrderPayment → MatchResult AllegroOrderPayment → Prop} :
    (store.getAllMatches secretId).Pairwise
        (fun first second => first.tx.id = second.tx.id → relation first second) ↔
      (store.pages secretId).Pairwise fun left right =>
        ∀ first ∈ left.results, ∀ second ∈ right.results, first.tx.id = second.tx.id →
          relation first second := by
  rw [StateStore.getAllMatches, List.pairwise_flatMap]
  refine and_iff_right fun entry page => ?_
  have distinct := List.pairwise_map.mp (previewed secretId entry page).ids_nodup
  exact distinct.imp fun different same => absurd same different

theorem single_samePayments {result : MatchResult AllegroOrderPayment} (single : Single result) :
    SamePayments result result := by
  obtain ⟨only, same⟩ := single
  intro payment member other otherMember
  rw [same, List.mem_singleton] at member otherMember
  rw [member, otherMember]

theorem samePayments_symm {left right : MatchResult AllegroOrderPayment}
    (same : SamePayments left right) : SamePayments right left :=
  fun payment member other otherMember => (same other otherMember payment member).symm

section Decisions

variable {results : List (MatchResult AllegroOrderPayment)}

theorem autoDecisions_transactionIds :
    ((selections (singleMatches results)).map decisionOf).map MatchDecision.transactionId =
      (singleMatches results).map fun result => result.tx.id := by
  have txs := selections_map_tx fun result (member : result ∈ singleMatches results) =>
    (mem_singleMatches.mp member).2
  calc
    _ = ((selections (singleMatches results)).map Prod.fst).map Transaction.id := by simp [decisionOf]
    _ = (singleMatches results).map fun result => result.tx.id := by rw [txs, List.map_map]; rfl

theorem selectedOnce_iff :
    (((selections (singleMatches results)).map decisionOf).map MatchDecision.transactionId).Nodup ↔
      results.Pairwise fun first second =>
        first.tx.id = second.tx.id → Single first → ¬ Single second := by
  rw [autoDecisions_transactionIds, List.Nodup, List.pairwise_map, singleMatches,
    List.pairwise_filter]
  apply iff_of_eq
  congr 1
  funext first second
  simp only [decide_eq_true_eq, List.length_eq_one_iff, Single, ne_eq, eq_iff_iff]
  tauto

def AgreeOnSingles (first second : MatchResult AllegroOrderPayment) : Prop :=
  first.tx.id = second.tx.id → Single first ∨ Single second → SamePayments first second

theorem agreeOnSingles_everywhere (agree : results.Pairwise AgreeOnSingles)
    {first second : MatchResult AllegroOrderPayment} (firstMember : first ∈ results)
    (secondMember : second ∈ results) : AgreeOnSingles first second := by
  have symmetric : Std.Symm AgreeOnSingles :=
    ⟨fun _ _ holds same single => samePayments_symm (holds same.symm single.symm)⟩
  refine agree.forall_of_forall (fun result _ _ single => ?_) firstMember secondMember
  exact single_samePayments (single.elim id id)

theorem oneCandidate_iff {store : StateStore} {secretId : UUID} :
    (∀ decision ∈ (selections (singleMatches (store.getAllMatches secretId))).map decisionOf,
        ∃! externalId, OfferedFor store secretId decision.transactionId externalId) ↔
      (store.getAllMatches secretId).Pairwise AgreeOnSingles := by
  constructor
  · intro unique
    have fromSingle : ∀ first ∈ store.getAllMatches secretId, ∀ second ∈ store.getAllMatches secretId,
        first.tx.id = second.tx.id → Single first → SamePayments first second := by
      intro first firstMember second secondMember same ⟨only, single⟩ payment member other otherMember
      have selected : (first.tx, only) ∈ selections (singleMatches (store.getAllMatches secretId)) :=
        mem_selections.mpr
          ⟨first, mem_singleMatches.mpr ⟨firstMember, only, single⟩, rfl, by rw [single]; rfl⟩
      exact (unique _ (List.mem_map_of_mem selected)).unique
        ⟨first, firstMember, rfl, payment, member, rfl⟩
        ⟨second, secondMember, same.symm, other, otherMember, rfl⟩
    refine List.pairwise_of_forall_mem_list ?_
    intro first firstMember second secondMember same single
    rcases single with single | single
    · exact fromSingle first firstMember second secondMember same single
    · exact samePayments_symm (fromSingle second secondMember first firstMember same.symm single)
  · intro agree decision member
    obtain ⟨selected, chosen, rfl⟩ := List.mem_map.mp member
    obtain ⟨first, firstMember, sameTx, candidates⟩ :=
      mem_selections_single (List.Subset.refl _) chosen
    have offered : selected.2 ∈ first.txMatches := by simp [candidates]
    refine ⟨selected.2.externalId, ⟨first, firstMember, by rw [sameTx]; rfl, _, offered, rfl⟩, ?_⟩
    rintro externalId ⟨second, secondMember, named, other, otherMember, rfl⟩
    have same : first.tx.id = second.tx.id := by rw [sameTx, named]; rfl
    exact (agreeOnSingles_everywhere agree firstMember secondMember same (.inl ⟨_, candidates⟩)
      _ offered other otherMember).symm

end Decisions

theorem startAutoApply_ok {store next : StateStore} {secretId : UUID} {limit : Option Int}
    {jobId : UUID} {now : Time} {task : RunningJob}
    (started : startAutoApplySingleMatches store secretId limit jobId now = .ok (next, task)) :
    task.decisions =
      (selections (limitTo limit (singleMatches (store.getAllMatches secretId)))).map decisionOf := by
  unfold startAutoApplySingleMatches at started
  by_cases nothing : store.getAllMatches secretId = []
  · simp [nothing] at started
  · rw [if_neg nothing] at started
    exact (startApplyJob_ok.mp started).2.2.1

theorem autoApply_unambiguous_iff {settings : Settings} {labels : List CacheLabel}
    {store next : StateStore} {task : RunningJob}
    (reached : (cacheMachine settings).run StateStore.initial labels = some store)
    {secretId jobId : UUID} {now : Time}
    (started : startAutoApplySingleMatches store secretId none jobId now = .ok (next, task)) :
    Unambiguous store secretId task.decisions ↔ (store.pages secretId).Pairwise PagesAgree := by
  have previewed := run_previewed reached
  have decisions := startAutoApply_ok started
  have split : Unambiguous store secretId task.decisions ↔
      (∀ decision ∈ task.decisions,
          ∃! externalId, OfferedFor store secretId decision.transactionId externalId) ∧
        (task.decisions.map MatchDecision.transactionId).Nodup :=
    ⟨fun holds => ⟨holds.1, holds.2⟩, fun holds => ⟨holds.1, holds.2⟩⟩
  rw [split, decisions]
  change (∀ decision ∈ (selections (singleMatches _)).map decisionOf, _) ∧
    (((selections (singleMatches _)).map decisionOf).map _).Nodup ↔ _
  rw [oneCandidate_iff, selectedOnce_iff, and_comm]
  unfold AgreeOnSingles
  rw [pages_pairwise previewed, pages_pairwise previewed, ← List.pairwise_and_iff]
  apply iff_of_eq
  congr 1
  funext left right
  simp only [PagesAgree, eq_iff_iff]
  constructor
  · intro ⟨once, same⟩ first firstMember second secondMember named
    exact ⟨once first firstMember second secondMember named,
      same first firstMember second secondMember named⟩
  · intro agree
    exact ⟨fun first firstMember second secondMember named =>
        (agree first firstMember second secondMember named).1,
      fun first firstMember second secondMember named =>
        (agree first firstMember second secondMember named).2⟩

namespace Sample

open FireflyToolkit.Sample

def alike : AllegroOrderPayment := payment "alike" eleventh (cents 1000)

def previewAlike : CacheLabel := .previewPage secret secondPage [alike] account

def alikePages : StateStore := cacheStep settings onePage previewAlike

def autoJob (store : StateStore) (decisions : List MatchDecision) : StateStore × RunningJob :=
  let (next, job) := store.createJob ⟨9⟩ secret decisions.length 0
  (next, ⟨job, decisions, store.getAllMatches secret⟩)

end Sample

theorem autoApply_unambiguous_twoPages :
    Unambiguous Sample.twoPages Sample.secret [Sample.decision] := by
  have reached : (cacheMachine Sample.settings).run StateStore.initial
      [Sample.previewEarly, Sample.previewLate] = some Sample.twoPages := rfl
  have started : startAutoApplySingleMatches Sample.twoPages Sample.secret none ⟨9⟩ 0 =
      .ok (Sample.autoJob Sample.twoPages [Sample.decision]) := rfl
  apply (autoApply_unambiguous_iff reached started).mpr
  rw [Sample.twoPages_pages, List.pairwise_pair]
  simp [PagesAgree, Sample.earlyEntry, Sample.lateEntry, Single, SamePayments]

-- Each page has a single candidate for the purchase, and they are different payments.
theorem autoApply_ambiguous_alikePages :
    (cacheMachine Sample.settings).run StateStore.initial [Sample.previewEarly, Sample.previewAlike] =
        some Sample.alikePages ∧
      startAutoApplySingleMatches Sample.alikePages Sample.secret none ⟨9⟩ 0 =
        .ok (Sample.autoJob Sample.alikePages [Sample.decision, ⟨"alike", 7⟩]) ∧
      ¬ Unambiguous Sample.alikePages Sample.secret [Sample.decision, ⟨"alike", 7⟩] := by
  refine ⟨rfl, rfl, fun unambiguous => ?_⟩
  exact absurd unambiguous.selectedOnce (by decide)

end FireflyToolkit.Allegro
