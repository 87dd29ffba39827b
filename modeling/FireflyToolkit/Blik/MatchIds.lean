import FireflyToolkit.Blik.Application

set_option autoImplicit false

namespace FireflyToolkit.Blik

open OrderedDict PyBuiltins

-- Two records that no id tells apart: only the joined text fields are compared, so a `|` inside a
-- field can stand for the separator.
structure SameJoined (record other : BankRecord) : Prop where
  date : record.date.isoformat = other.date.isoformat
  amount : record.amount.toText = other.amount.toText
  operationAmount : record.operationAmount.toText = other.operationAmount.toText
  texts : joinTexts "|" (textFields record) = joinTexts "|" (textFields other)

theorem bar_notMem_padZeros (width value : Nat) : '|' ∉ (padZeros width value).toList := by
  intro member
  simp only [padZeros, String.toList_append, String.toList_ofList, List.mem_append,
    List.mem_replicate] at member
  rcases member with zero | digit
  · exact absurd zero.2 (by decide)
  · exact absurd (Decimal.digit_of_mem_toString digit) (by decide)

theorem bar_notMem_isoformat (date : Date) : '|' ∉ date.isoformat.toList := by
  have dash : '|' ∉ "-".toList := by decide
  simp only [Date.isoformat, String.toList_append, List.mem_append, not_or]
  exact ⟨⟨⟨⟨bar_notMem_padZeros _ _, dash⟩, bar_notMem_padZeros _ _⟩, dash⟩, bar_notMem_padZeros _ _⟩

theorem textFields_filled {record : BankRecord} {texts : List String}
    (filled : textFields record = texts.map some) : ∃ recipient rest, texts = recipient :: rest := by
  cases texts with
  | nil => simp [textFields] at filled
  | cons recipient rest => exact ⟨recipient, rest, rfl⟩

theorem matchIdPayload_eq_iff {transactionId : Int} {record other : BankRecord}
    {payload otherPayload : String} (joined : matchIdPayload transactionId record = .ok payload)
    (otherJoined : matchIdPayload transactionId other = .ok otherPayload) :
    payload = otherPayload ↔ SameJoined record other := by
  have bar : "|".toList = ['|'] := by decide
  obtain ⟨texts, filled, rfl⟩ := matchIdPayload_ok.mp joined
  obtain ⟨others, otherFilled, rfl⟩ := matchIdPayload_ok.mp otherJoined
  have texted : joinTexts "|" (textFields record) = .ok (join "|" texts) :=
    joinTexts_ok.mpr ⟨texts, filled, rfl⟩
  have otherTexted : joinTexts "|" (textFields other) = .ok (join "|" others) :=
    joinTexts_ok.mpr ⟨others, otherFilled, rfl⟩
  obtain ⟨recipient, rest, rfl⟩ := textFields_filled filled
  obtain ⟨otherRecipient, otherRest, rfl⟩ := textFields_filled otherFilled
  constructor
  · intro same
    obtain ⟨-, dated⟩ := join_cons_inj bar (Decimal.bar_notMem_toString _)
      (Decimal.bar_notMem_toString _) same
    obtain ⟨date, valued⟩ := join_cons_inj bar (bar_notMem_isoformat _) (bar_notMem_isoformat _) dated
    obtain ⟨amount, operated⟩ := join_cons_inj bar (Decimal.bar_notMem_toText _)
      (Decimal.bar_notMem_toText _) valued
    obtain ⟨operationAmount, joins⟩ := join_cons_inj bar (Decimal.bar_notMem_toText _)
      (Decimal.bar_notMem_toText _) operated
    exact ⟨date, amount, operationAmount, by rw [texted, otherTexted, joins]⟩
  · rintro ⟨date, amount, operationAmount, joins⟩
    rw [texted, otherTexted] at joins
    simp only [join, date, amount, operationAmount, Except.ok.inj joins]

def LookupKept (digest : String → String) (result : MatchResult BankRecord)
    (answer : ApiMatchResult) : Prop :=
  ∀ (place : Nat) record shown matchId, result.txMatches[place]? = some record →
    answer.txMatches[place]? = some shown → shown.matchId = some matchId →
      findSelectedMatch digest result.tx.id result matchId = .ok record

def ToldApart (records : List BankRecord) : Prop :=
  ∀ record ∈ records, ∀ other ∈ records, SameJoined record other → record = other

variable {digest : String → String}

theorem lookupKept_shown {result : MatchResult BankRecord} {answer : ApiMatchResult}
    (mapped : mapMatchResultToApi digest result = .ok answer) :
    LookupKept digest result answer ↔ ∀ record ∈ result.txMatches, ∀ matchId,
      buildBlikMatchId digest result.tx.id record = .ok matchId →
        findSelectedMatch digest result.tx.id result matchId = .ok record := by
  have listed := mapMatchResultToApi_ok mapped
  constructor
  · intro kept record member matchId built
    obtain ⟨place, placed⟩ := List.getElem?_of_mem member
    obtain ⟨shown, displayed, simplified⟩ := forall₂_getElem? listed placed
    exact kept place record shown matchId placed displayed (simplifiedMatch_matchId simplified built)
  · intro kept place record shown matchId placed displayed named
    obtain ⟨other, otherDisplayed, simplified⟩ := forall₂_getElem? listed placed
    obtain rfl := Option.some.inj (displayed.symm.trans otherDisplayed)
    obtain ⟨shownId, built, -⟩ := bind_eq_ok.mp simplified
    obtain rfl := Option.some.inj (named.symm.trans (simplifiedMatch_matchId simplified built))
    exact kept record (List.mem_of_getElem? placed) matchId built

-- The lookup returns the last record with the id, so it is right exactly when the ids of
-- different records differ.
theorem lookupKept_iff {result : MatchResult BankRecord} {answer : ApiMatchResult}
    (injective : ∀ record ∈ result.txMatches, ∀ other ∈ result.txMatches, ∀ payload otherPayload,
      matchIdPayload result.tx.id record = .ok payload →
        matchIdPayload result.tx.id other = .ok otherPayload →
          digest payload = digest otherPayload → payload = otherPayload)
    (mapped : mapMatchResultToApi digest result = .ok answer) :
    LookupKept digest result answer ↔ ToldApart result.txMatches := by
  have texts : ∀ record ∈ result.txMatches, none ∉ textFields record := fun record member =>
    ((mapMatchResultToApi_ok_iff.mp ⟨answer, mapped⟩).2 record member).texts
  have hashed : ∀ record ∈ result.txMatches, ∃ payload,
      matchIdPayload result.tx.id record = .ok payload ∧
        buildBlikMatchId digest result.tx.id record = .ok (digest payload) := by
    intro record member
    obtain ⟨matchId, built⟩ := buildBlikMatchId_ok_iff.mpr (texts record member)
    obtain ⟨payload, joined, returned⟩ := bind_eq_ok.mp built
    exact ⟨payload, joined, built.trans returned.symm⟩
  rw [lookupKept_shown mapped]
  constructor
  · intro kept record member other otherMember sameJoined
    obtain ⟨payload, joined, built⟩ := hashed record member
    obtain ⟨otherPayload, otherJoined, otherBuilt⟩ := hashed other otherMember
    rw [← (matchIdPayload_eq_iff joined otherJoined).mpr sameJoined] at otherBuilt
    have found := kept record member _ built
    rw [kept other otherMember _ otherBuilt] at found
    exact (Except.ok.inj found).symm
  · intro apart record member matchId built
    obtain ⟨payload, joined, hashes⟩ := hashed record member
    obtain ⟨found, foundMember, lookup, sameId⟩ :=
      @Dict.exists_get?_indexBy _ _ _ (buildBlikMatchId digest result.tx.id) _ _ member
    obtain ⟨foundPayload, foundJoined, foundHashes⟩ := hashed found foundMember
    rw [foundHashes, hashes] at sameId
    have samePayload := injective found foundMember record member _ _ foundJoined joined
      (Except.ok.inj sameId)
    have same := apart found foundMember record member
      ((matchIdPayload_eq_iff foundJoined joined).mp samePayload)
    rw [built, same] at lookup
    exact (findSelectedMatch_ok digest).mpr ⟨texts, lookup⟩

theorem textFields_eq_of_sameJoined {record other : BankRecord} {texts others : List String}
    (filled : textFields record = texts.map some) (otherFilled : textFields other = others.map some)
    (clean : ∀ text ∈ texts, '|' ∉ text.toList) (clean' : ∀ text ∈ others, '|' ∉ text.toList)
    (same : SameJoined record other) : textFields record = textFields other := by
  have joins := same.texts
  rw [joinTexts_ok.mpr ⟨texts, filled, rfl⟩, joinTexts_ok.mpr ⟨others, otherFilled, rfl⟩] at joins
  have lengths : texts.length = others.length := by
    have first := congrArg List.length filled
    have second := congrArg List.length otherFilled
    rw [List.length_map] at first second
    exact first.symm.trans second
  rw [filled, otherFilled, join_injective (show "|".toList = ['|'] by decide) lengths clean clean'
    (Except.ok.inj joins)]

namespace Sample

open FireflyToolkit.Sample

def cutRow (recipient details : String) : BankRecord :=
  { row details tenth (cents 1000) with recipient := some recipient }

def cutResult (rows : List BankRecord) : MatchResult BankRecord :=
  ⟨purchase 1 tenth (cents 1000), rows, .new⟩

def plainRows : List BankRecord := [cutRow "Shop" "Order", cutRow "Bakery" "Bread"]

end Sample

theorem lookupKept_iff_plain : ∃ answer,
    mapMatchResultToApi id (Sample.cutResult Sample.plainRows) = .ok answer ∧
      LookupKept id (Sample.cutResult Sample.plainRows) answer := by
  refine ⟨_, rfl, (lookupKept_iff ?_ rfl).mpr ?_⟩
  · exact fun _ _ _ _ _ _ _ _ same => same
  · intro record member other otherMember same
    simp only [Sample.cutResult, Sample.plainRows, List.mem_cons, List.not_mem_nil,
      or_false] at member otherMember
    have joins := same.texts
    rcases member with rfl | rfl <;> rcases otherMember with rfl | rfl
    · rfl
    · exact absurd joins (by decide)
    · exact absurd joins (by decide)
    · rfl

-- The id shown for the first row finds the second.
theorem lookup_finds_other :
    (∀ record ∈ [Sample.cutRow "A|B" "C", Sample.cutRow "A" "B|C"],
        Matchable.compare record (Sample.purchase 1 Sample.tenth (Sample.cents 1000)) = .ok true) ∧
      ∃ answer, mapMatchResultToApi id
          (Sample.cutResult [Sample.cutRow "A|B" "C", Sample.cutRow "A" "B|C"]) = .ok answer ∧
        ¬ LookupKept id (Sample.cutResult [Sample.cutRow "A|B" "C", Sample.cutRow "A" "B|C"]) answer := by
  refine ⟨by decide, _, rfl, fun kept => ?_⟩
  have found := kept 0 (Sample.cutRow "A|B" "C") _ _ rfl rfl rfl
  rw [findSelectedMatch_ok] at found
  replace found := found.2
  revert found
  decide

end FireflyToolkit.Blik
