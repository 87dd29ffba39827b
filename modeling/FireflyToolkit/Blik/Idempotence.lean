import FireflyToolkit.Firefly.Rounds
import FireflyToolkit.Jobs.OneToOne
import FireflyToolkit.Jobs.Previews

set_option autoImplicit false

namespace FireflyToolkit.Blik

open FireflyEnrichmentService OrderedDict PyBuiltins

structure AutoRound where
  store : StateStore
  firefly : FireflyStore
  preview : Option FileMatchResponse
  job : Option ApplyJob

structure RoundRequest where
  encodedId : String
  decoded : String
  csvRecords : List BankRecord
  limit : Option Int
  jobId : UUID
  now : Time
  finishedAt : Time

def autoRound (digest : String → String) (settings : Settings) (client : FireflyClient)
    (request : RoundRequest) (store : StateStore) (firefly : FireflyStore) : AutoRound :=
  let (previewed, answer) := previewMatches digest settings store firefly.reader request.encodedId
    request.decoded request.csvRecords
  match answer with
  | .error _ => ⟨previewed, firefly, none, none⟩
  | .ok preview =>
      match startAutoApplySingleMatches digest previewed request.encodedId request.limit
          request.jobId request.now with
      | .error _ => ⟨previewed, firefly, some preview, none⟩
      | .ok (next, task) =>
          let (last, job) := runApplyJob digest settings client task firefly request.finishedAt
          ⟨next, last, some preview, some job⟩

theorem limitTo_limits (limit : Option Int) : @Limits BankRecord (limitTo limit) :=
  ⟨limitTo_sublist limit, fun rewrite results => limitTo_map rewrite limit results⟩

section Round

variable {digest : String → String} {settings : Settings} {client : FireflyClient}
  {request : RoundRequest} {store : StateStore} {firefly : FireflyStore}

theorem resolve_selected {results : List (MatchResult BankRecord)} {limit : Option Int}
    {decisions : List MatchDecision} (distinct : (results.map fun result => result.tx.id).Nodup)
    (decided : (selections (limitTo limit (singleMatches results))).mapM (decisionOf digest) =
      .ok decisions) :
    resolutions digest results decisions =
      (selections (limitTo limit (singleMatches results))).map .ok := by
  refine mapM_ok_map (fun entry member decision made => ?_) decided
  obtain ⟨result, listed, sameTx, single⟩ :=
    mem_selections_single (limitTo_sublist limit _).subset member
  obtain ⟨matchId, built, same⟩ := bind_eq_ok.mp made
  rw [← Except.ok.inj same]
  have found : (matchIndex results).get? entry.1.id = some result := by
    rw [← sameTx]
    exact Dict.get?_indexBy_of_nodup distinct listed
  have offered : (Dict.indexBy (buildBlikMatchId digest entry.1.id) result.txMatches).get?
      (.ok matchId) = some entry.2 := by
    rw [single, ← built]
    exact Dict.get?_indexBy_of_nodup (by simp) (by simp)
  have texts : ∀ candidate ∈ result.txMatches, none ∉ textFields candidate := by
    rw [single]
    intro candidate only
    rw [List.mem_singleton.mp only]
    exact buildBlikMatchId_ok_iff.mp ⟨matchId, built⟩
  exact (resolveDecision_ok digest).mpr
    ⟨result, found, sameTx, (findSelectedMatch_ok digest).mpr ⟨texts, offered⟩⟩

end Round

section Builder

variable {lower : String → String} {record : BankRecord} {tx : Transaction}

theorem updatedBy_record (writable : record.isWritable = true) :
    ∃ details printed, record.details = some details ∧ record.prettyPrint true = .ok printed ∧
      ∀ (categories : List Category) (copy tx : Transaction),
        updatedBy lower categories (copy, record) tx =
          { tx with
            description :=
              (if OccursIn (lower details) (lower copy.description) then none
                else some (copy.description ++ ";" ++ details)).getD tx.description
            notes := some (addLine copy.notes printed)
            tags := insert TxTag.blik_done.value copy.tags } := by
  simp only [BankRecord.isWritable, Bool.and_eq_true, Bool.not_eq_true', Option.isSome_iff_exists]
    at writable
  obtain ⟨⟨⟨details, described⟩, amount⟩, operationAmount⟩ := writable
  obtain ⟨printed, shows⟩ := BankRecord.prettyPrint_ok_iff.mpr ⟨amount, operationAmount⟩
  refine ⟨details, printed, described, shows, fun categories copy other => ?_⟩
  simp [updatedBy, Evidence.buildTxUpdate, BankRecord.buildTxUpdate, described, shows, bind,
    Except.bind, TransactionUpdate.applyTo]

theorem updatedBy_holds (lowerJoined : ∀ left right, lower (left ++ ";" ++ right) =
      lower left ++ ";" ++ lower right) {filterText : String} (categories : List Category)
    (holds : OccursIn (lower filterText) (lower tx.description)) :
    OccursIn (lower filterText)
      (lower (updatedBy lower categories (tx, record) tx).description) := by
  by_cases writable : record.isWritable = true
  next =>
    obtain ⟨details, printed, -, -, updates⟩ := @updatedBy_record lower record writable
    rw [updates]
    by_cases occurs : OccursIn (lower details) (lower tx.description)
    · simpa [occurs] using holds
    · have extended : OccursIn (lower filterText) (lower (tx.description ++ ";" ++ details)) := by
        rw [lowerJoined]
        exact holds.trans ((occursIn_append_left _ ";").trans (occursIn_append_left _ _))
      simpa [occurs] using extended
  next =>
    have unbuilt : ∀ payload, record.buildTxUpdate lower tx ≠ .ok payload := fun payload built =>
      writable (BankRecord.buildTxUpdate_ok_iff.mp ⟨payload, built⟩)
    have unchanged : updatedBy lower categories (tx, record) tx = tx := by
      unfold updatedBy
      split
      next payload built => exact absurd built (unbuilt payload)
      next => rfl
    rwa [unchanged]

end Builder

def content (tx : Transaction) : String × Option String × Finset String × Option Category :=
  (tx.description, tx.notes, tx.tags, tx.category)

section Twice

variable {digest : String → String} {settings : Settings} {request : RoundRequest}
  {store : StateStore} {firefly : FireflyStore}

theorem written_keepsView
    (lowerJoined : ∀ left right, settings.lower (left ++ ";" ++ right) =
      settings.lower left ++ ";" ++ settings.lower right)
    {selected : List (Transaction × BankRecord)} {filterText : String}
    (distinct : (selected.map fun entry => entry.1.id).Nodup)
    (fetched : ∀ entry ∈ selected, entry.1 ∈ firefly.records ∧
      OccursIn (settings.lower filterText) (settings.lower entry.1.description)) :
    KeepsView settings filterText firefly.records
      (written settings.lower firefly.categories selected) where
  id tx := (written_keeps tx).1
  date tx := (written_keeps tx).2.1
  amount tx := (written_keeps tx).2.2
  description tx member := by
    by_cases chosen : ∃ entry ∈ selected, entry.1.id = tx.id
    next =>
      obtain ⟨entry, entryMember, same⟩ := chosen
      obtain ⟨stored, holds⟩ := fetched entry entryMember
      have sameTx : entry.1 = tx := List.inj_on_of_nodup_map firefly.distinct stored member same
      rw [← sameTx, written_selected distinct entryMember]
      exact iff_of_true (updatedBy_holds lowerJoined _ holds) holds
    next =>
      have unselected : ∀ entry ∈ selected, entry.1.id ≠ tx.id :=
        fun entry entryMember same => chosen ⟨entry, entryMember, same⟩
      rw [written_unselected unselected]

end Twice

namespace Sample

open FireflyToolkit.Sample

def blikPurchase : Transaction :=
  { purchase 7 twelfth (cents 1000) with description := settings.blikDescriptionFilter }

def blikAccount : FireflyStore := ⟨[blikPurchase], [], by simp⟩

def fileRequest (record : BankRecord) : RoundRequest := ⟨"file", "tmp", [record], none, ⟨9⟩, 0, 1⟩

def fitting : BankRecord := row "Order 12" twelfth (cents 1000)

def dearer : BankRecord := row "Order 12" twelfth (cents 2000)

def digest (text : String) : String := "sha256-" ++ text

def round (record : BankRecord) : AutoRound :=
  autoRound digest settings .reliable (fileRequest record) StateStore.initial blikAccount

end Sample

end FireflyToolkit.Blik
