import FireflyToolkit.Allegro.Application
import FireflyToolkit.Blik.Application
import FireflyToolkit.Firefly.Partition

set_option autoImplicit false

namespace FireflyToolkit

open FireflyEnrichmentService PyBuiltins

namespace Allegro

def matchPageFrom (settings : Settings) (reader : FireflyReader)
    (payments : List AllegroOrderPayment) :
    Except PyError (List (MatchResult AllegroOrderPayment) × List AllegroOrderPayment) :=
  match matchFrom settings reader payments settings.allegroDescriptionFilter .allegro_done with
  | .ok found => .ok found
  | .error (.fireflyServiceError message _) =>
      .error (.application .externalServiceFailed message)
  | .error other => .error other

def previewMatchesFrom (settings : Settings) (reader : FireflyReader) (store : StateStore)
    (secretId : UUID) (page : PageRequest) (payments : List AllegroOrderPayment) :
    Except PyError (StateStore × MatchPreview) := do
  let (results, unmatchedPayments) ← matchPageFrom settings reader payments
  let withMatches (test : Nat → Bool) : Nat :=
    (results.filter fun result => test result.txMatches.length).length
  .ok (cachePage store secretId page payments results,
    { login := loginOf payments
      paymentsFetched := payments.length
      transactionsFound := results.length
      transactionsNotMatched := withMatches (· == 0)
      transactionsWithOneMatch := withMatches (· == 1)
      transactionsWithManyMatches := withMatches (decide <| 1 < ·)
      content := results
      unmatchedPayments := unmatchedPayments })

theorem previewMatchesFrom_reader (settings : Settings) (firefly : FireflyStore) (store : StateStore)
    (secretId : UUID) (page : PageRequest) (payments : List AllegroOrderPayment) :
    previewMatchesFrom settings firefly.reader store secretId page payments =
      previewPage settings store firefly secretId page payments := rfl

end Allegro

section Fetched

variable {α : Type} [Matchable α]

-- The transactions that the candidates are matched with: those of their window whose description
-- contains the filter text. There is no window without a candidate or past the calendar.
def fetchedFor (settings : Settings) (reader : FireflyReader) (filterText : String)
    (candidates : List α) : Option (Except FireflyAPIError (List Transaction)) :=
  (fetchWindow settings candidates).map fun window =>
    (reader.fetchTransactions (some window.1) (some window.2)).map fun domainTxs =>
      filterByDescription settings.lower domainTxs filterText false

theorem matchFrom_eq (settings : Settings) (reader : FireflyReader) (candidates : List α)
    (filterText : String) (tagDone : TxTag) :
    matchFrom settings reader candidates filterText tagDone =
      match fetchedFor settings reader filterText candidates with
      | none =>
          if candidates = [] then .error (.valueError "min() iterable argument is empty")
          else .error (.overflowError "date value out of range")
      | some (.error failure) =>
          .error (.fireflyServiceError "Failed to fetch transactions from Firefly iii"
            failure.statusCode)
      | some (.ok txs) => matchTransactions txs candidates tagDone := by
  unfold matchFrom fetchedFor fetchWindow
  cases candidates with
  | nil => rfl
  | cons candidate rest =>
    simp only [List.map_cons]
    cases (maxDate (Matchable.date candidate) (rest.map Matchable.date)).addDays
        settings.matchWithUnmatchedFutureDays with
    | none => rfl
    | some lastDate =>
      simp only [Option.map_some, FireflyBaseService.fetchFrom]
      cases reader.fetchTransactions
        (some (minDate (Matchable.date candidate) (rest.map Matchable.date))) (some lastDate) <;> rfl

structure Coverable (settings : Settings) (reader : FireflyReader) (filterText : String)
    (candidates : List α) : Prop where
  nonempty : candidates ≠ []
  insideCalendar : ∃ window, fetchWindow settings candidates = some window
  compares : ∀ txs, fetchedFor settings reader filterText candidates = some (.ok txs) →
    AllCompare txs candidates

def unmatchedIn (txs : List Transaction) (candidates : List α) : List α :=
  candidates.filter fun candidate => txs.all fun tx => !accepts candidate tx

variable {settings : Settings} {reader : FireflyReader} {filterText : String}
  {candidates : List α}

theorem fetchedFor_isSome :
    (∃ answer, fetchedFor settings reader filterText candidates = some answer) ↔
      ∃ window, fetchWindow settings candidates = some window := by
  unfold fetchedFor
  cases fetchWindow settings candidates <;> simp

theorem fetchWindow_nonempty {window : Date × Date}
    (counted : fetchWindow settings candidates = some window) : candidates ≠ [] := by
  rintro rfl
  cases counted

-- The matcher answers, or passes on the failure of Firefly, or raises an exception of its own.
theorem matchFrom_cases (settings : Settings) (reader : FireflyReader) (candidates : List α)
    (filterText : String) (tagDone : TxTag) :
    (Coverable settings reader filterText candidates ∧
      ((∃ txs, fetchedFor settings reader filterText candidates = some (.ok txs) ∧
          matchFrom settings reader candidates filterText tagDone =
            .ok (txs.map (matchResult candidates tagDone), unmatchedIn txs candidates)) ∨
        ∃ reason, fetchedFor settings reader filterText candidates = some (.error reason) ∧
          matchFrom settings reader candidates filterText tagDone =
            .error (.fireflyServiceError "Failed to fetch transactions from Firefly iii"
              reason.statusCode))) ∨
    (¬ Coverable settings reader filterText candidates ∧
      (∀ reason, fetchedFor settings reader filterText candidates ≠ some (.error reason)) ∧
      ∃ failure, matchFrom settings reader candidates filterText tagDone = .error failure) := by
  rw [matchFrom_eq]
  cases fetched : fetchedFor settings reader filterText candidates with
  | none =>
    refine .inr ⟨fun coverable => ?_, by simp, ?_⟩
    · obtain ⟨answer, answered⟩ := fetchedFor_isSome.mpr coverable.insideCalendar
      cases fetched.symm.trans answered
    · by_cases nothing : candidates = [] <;> simp [nothing]
  | some answer =>
    obtain ⟨window, counted⟩ := fetchedFor_isSome.mp ⟨answer, fetched⟩
    cases answer with
    | error reason =>
      have coverable : Coverable settings reader filterText candidates :=
        ⟨fetchWindow_nonempty counted, ⟨window, counted⟩, by simp [fetched]⟩
      exact .inl ⟨coverable, .inr ⟨reason, rfl, rfl⟩⟩
    | ok txs =>
      by_cases compares : AllCompare txs candidates
      next =>
        have coverable : Coverable settings reader filterText candidates := by
          refine ⟨fetchWindow_nonempty counted, ⟨window, counted⟩, fun others answered => ?_⟩
          have same : txs = others := by simpa [fetched] using answered
          exact same ▸ compares
        refine .inl ⟨coverable, .inl ⟨txs, rfl, matchTransactions_eq ?_⟩⟩
        intro tx member item listed
        obtain ⟨verdict, compared⟩ := compares tx member item listed
        rw [compared, accepts_of_compare compared]
      next =>
        refine .inr ⟨fun coverable => compares (coverable.compares txs fetched), by simp, ?_⟩
        cases matched : matchTransactions txs candidates tagDone with
        | ok output => exact absurd (matchTransactions_returns_iff.mp ⟨output, matched⟩) compares
        | error failure => exact ⟨failure, matched⟩

end Fetched

def MatchingKept {α : Type} [Matchable α] (settings : Settings) (reader : FireflyReader)
    (filterText : String) (tagDone : TxTag) (candidates : List α) : Prop :=
  match matchFrom settings reader candidates filterText tagDone with
  | .ok (_, unmatched) => ∃ txs,
      fetchedFor settings reader filterText candidates = some (.ok txs) ∧
        unmatched = unmatchedIn txs candidates
  | .error failure => ∃ reason,
      fetchedFor settings reader filterText candidates = some (.error reason) ∧
        failure = .fireflyServiceError "Failed to fetch transactions from Firefly iii" reason.statusCode

theorem matchingKept_iff {α : Type} [Matchable α] (settings : Settings) (reader : FireflyReader)
    (filterText : String) (tagDone : TxTag) (candidates : List α) :
    MatchingKept settings reader filterText tagDone candidates ↔
      Coverable settings reader filterText candidates := by
  unfold MatchingKept
  rcases matchFrom_cases settings reader candidates filterText tagDone with
    ⟨coverable, ⟨txs, fetched, matched⟩ | ⟨reason, fetched, failed⟩⟩ |
      ⟨uncoverable, unfailed, failure, failed⟩
  · simp [matched, fetched, coverable]
  · simp [failed, fetched, coverable]
  · simp [failed, unfailed, uncoverable]

theorem counts_add_up {α : Type} (results : List (MatchResult α)) :
    (results.filter fun result => result.txMatches.length == 0).length +
        (results.filter fun result => result.txMatches.length == 1).length +
        (results.filter fun result => decide (1 < result.txMatches.length)).length =
      results.length := by
  induction results with
  | nil => rfl
  | cons result rest ih =>
    rcases Nat.lt_trichotomy result.txMatches.length 1 with none | one | many
    · have nothing : result.txMatches.length = 0 := by omega
      simp [nothing]
      omega
    · simp [one]
      omega
    · have several : result.txMatches.length ≠ 0 ∧ result.txMatches.length ≠ 1 := by omega
      simp [many, several]
      omega

namespace Allegro

def PreviewKept (settings : Settings) (reader : FireflyReader) (payments : List AllegroOrderPayment) :
    Except PyError (StateStore × MatchPreview) → Prop
  | .ok (_, preview) => ∃ txs,
      fetchedFor settings reader settings.allegroDescriptionFilter payments = some (.ok txs) ∧
        preview.transactionsFound = txs.length ∧
        preview.transactionsNotMatched + preview.transactionsWithOneMatch +
          preview.transactionsWithManyMatches = preview.transactionsFound ∧
        preview.paymentsFetched = payments.length ∧
        preview.unmatchedPayments = unmatchedIn txs payments
  | .error failure => ∃ reason message,
      fetchedFor settings reader settings.allegroDescriptionFilter payments = some (.error reason) ∧
        failure = .application .externalServiceFailed message

theorem previewKept_iff (settings : Settings) (reader : FireflyReader) (store : StateStore)
    (secretId : UUID) (page : PageRequest) (payments : List AllegroOrderPayment) :
    PreviewKept settings reader payments
        (previewMatchesFrom settings reader store secretId page payments) ↔
      Coverable settings reader settings.allegroDescriptionFilter payments := by
  unfold previewMatchesFrom matchPageFrom
  rcases matchFrom_cases settings reader payments settings.allegroDescriptionFilter .allegro_done with
    ⟨coverable, ⟨txs, fetched, matched⟩ | ⟨reason, fetched, failed⟩⟩ |
      ⟨uncoverable, unfailed, failure, failed⟩
  · have counts := counts_add_up (txs.map (matchResult payments .allegro_done))
    simp only [matched, bind, Except.bind, PreviewKept, coverable, iff_true]
    exact ⟨txs, fetched, List.length_map _, counts, trivial, rfl⟩
  · simp [failed, bind, Except.bind, PreviewKept, fetched, coverable]
  · cases failure <;> simp [failed, bind, Except.bind, PreviewKept, unfailed, uncoverable]

end Allegro

namespace Blik

def PreviewKept (settings : Settings) (reader : FireflyReader) (csvRecords : List BankRecord) :
    Except PyError FileMatchResponse → Prop
  | .ok response => ∃ txs,
      fetchedFor settings reader settings.blikDescriptionFilter csvRecords = some (.ok txs) ∧
        response.transactionsFound = txs.length ∧
        response.transactionsNotMatched + response.transactionsWithOneMatch +
          response.transactionsWithManyMatches = response.transactionsFound ∧
        response.recordsInFile = csvRecords.length
  | .error failure => ∃ reason message,
      fetchedFor settings reader settings.blikDescriptionFilter csvRecords = some (.error reason) ∧
        failure = .application .externalServiceFailed message

def AllShown (settings : Settings) (reader : FireflyReader) (csvRecords : List BankRecord) : Prop :=
  ∀ txs, fetchedFor settings reader settings.blikDescriptionFilter csvRecords = some (.ok txs) →
    ∀ tx ∈ txs, tx.Renders ∧ ∀ record ∈ csvRecords, accepts record tx = true → Shows record

theorem responseOf_ok_iff {digest : String → String} {encodedId decoded : String}
    {csvRecords : List BankRecord} {results : List (MatchResult BankRecord)} :
    (∃ response, responseOf digest encodedId decoded csvRecords results = .ok response) ↔
      ∀ result ∈ results, result.tx.Renders ∧ ∀ record ∈ result.txMatches, Shows record := by
  have mapped : (∃ answers, mapMatchResultsToApi digest results = .ok answers) ↔
      ∀ result ∈ results, result.tx.Renders ∧ ∀ record ∈ result.txMatches, Shows record := by
    simp only [mapMatchResultsToApi, mapM_ok_iff, mapMatchResultToApi_ok_iff]
  rw [← mapped]
  unfold responseOf
  cases mapMatchResultsToApi digest results <;> simp [bind, Except.bind]

theorem responseOf_counts {digest : String → String} {encodedId decoded : String}
    {csvRecords : List BankRecord} {results : List (MatchResult BankRecord)}
    {response : FileMatchResponse}
    (answered : responseOf digest encodedId decoded csvRecords results = .ok response) :
    response.transactionsFound = results.length ∧
      response.transactionsNotMatched + response.transactionsWithOneMatch +
        response.transactionsWithManyMatches = response.transactionsFound ∧
      response.recordsInFile = csvRecords.length := by
  unfold responseOf at answered
  obtain ⟨answers, -, returned⟩ := bind_eq_ok.mp answered
  rw [← Except.ok.inj returned]
  exact ⟨rfl, counts_add_up results, rfl⟩

theorem previewKept_iff (digest : String → String) (settings : Settings) (reader : FireflyReader)
    (store : StateStore) (encodedId decoded : String) (csvRecords : List BankRecord) :
    PreviewKept settings reader csvRecords
        (previewMatches digest settings store reader encodedId decoded csvRecords).2 ↔
      Coverable settings reader settings.blikDescriptionFilter csvRecords ∧
        AllShown settings reader csvRecords := by
  unfold previewMatches matchFile matchCandidates
  rcases matchFrom_cases settings reader csvRecords settings.blikDescriptionFilter .blik_done with
    ⟨coverable, ⟨txs, fetched, matched⟩ | ⟨reason, fetched, failed⟩⟩ |
      ⟨uncoverable, unfailed, failure, failed⟩
  · have shown : AllShown settings reader csvRecords ↔
        ∀ result ∈ txs.map (matchResult csvRecords .blik_done),
          result.tx.Renders ∧ ∀ record ∈ result.txMatches, Shows record := by
      simp [AllShown, fetched, matchResult]
    rw [shown, ← @responseOf_ok_iff digest encodedId decoded csvRecords]
    simp only [matched, bind, Except.bind]
    cases answered : responseOf digest encodedId decoded csvRecords
        (txs.map (matchResult csvRecords .blik_done)) with
    | error failure => simp [PreviewKept, fetched]
    | ok response =>
      obtain ⟨found, counts, records⟩ := responseOf_counts answered
      simp only [PreviewKept, coverable, Except.ok.injEq, exists_eq', and_true, iff_true]
      exact ⟨txs, fetched, found.trans (List.length_map _), counts, records⟩
  · simp [failed, bind, Except.bind, PreviewKept, fetched, coverable, AllShown]
  · cases failure <;> simp [failed, bind, Except.bind, PreviewKept, unfailed, uncoverable]

end Blik

-- Matching and both previews do what they promise exactly for candidates that span a window of
-- the calendar; an empty page and a file without rows are none.
theorem previews_kept_iff (digest : String → String) (settings : Settings) (reader : FireflyReader)
    (payments : List AllegroOrderPayment) (csvRecords : List BankRecord) :
    (∀ (candidates : List BaseMatchItem) filterText tagDone,
      MatchingKept settings reader filterText tagDone candidates ↔
        Coverable settings reader filterText candidates) ∧
    (∀ store secretId page,
      Allegro.PreviewKept settings reader payments
          (Allegro.previewMatchesFrom settings reader store secretId page payments) ↔
        Coverable settings reader settings.allegroDescriptionFilter payments) ∧
    (∀ store encodedId decoded,
      Blik.PreviewKept settings reader csvRecords
          (Blik.previewMatches digest settings store reader encodedId decoded csvRecords).2 ↔
        Coverable settings reader settings.blikDescriptionFilter csvRecords ∧
          Blik.AllShown settings reader csvRecords) :=
  ⟨fun candidates filterText tagDone => matchingKept_iff settings reader filterText tagDone candidates,
    fun store secretId page => Allegro.previewKept_iff settings reader store secretId page payments,
    fun store encodedId decoded =>
      Blik.previewKept_iff digest settings reader store encodedId decoded csvRecords⟩

-- An Allegro page past the last order, while Firefly would answer.
theorem previews_emptyPage :
    ¬ Allegro.PreviewKept Sample.settings (Sample.readerOf []) []
        (Allegro.previewMatchesFrom Sample.settings (Sample.readerOf []) .initial ⟨1⟩ .default []) ∧
      ¬ Blik.PreviewKept Sample.settings (Sample.readerOf []) []
        (Blik.previewMatches id Sample.settings .initial (Sample.readerOf []) "aWQ" "id" []).2 := by
  constructor
  · rintro ⟨reason, message, fetched, failed⟩
    cases failed
  · rintro ⟨reason, message, fetched, failed⟩
    cases failed

-- With at least six days of margin no comparison leaves the calendar, so candidates of either kind
-- can be matched exactly when their amounts compare with those of the fetched transactions.
theorem coverable_iff {settings : Settings} {reader : FireflyReader} {filterText : String}
    {candidates : List BaseMatchItem} {window : Date × Date}
    (days : 6 ≤ settings.matchWithUnmatchedFutureDays)
    (counted : fetchWindow settings candidates = some window) :
    Coverable settings reader filterText candidates ↔
      ∀ txs, fetchedFor settings reader filterText candidates = some (.ok txs) →
        AmountsCompare txs candidates := by
  have compares : ∀ txs, AllCompare txs candidates ↔ AmountsCompare txs candidates := by
    intro txs
    refine forall₂_congr fun tx _ => forall₂_congr fun candidate member => ?_
    obtain ⟨-, latest, latestDay, -⟩ := fetchWindow_covers days counted member
    exact (@BaseMatchItem.compare_window candidate tx latest latestDay).1
  constructor
  · exact fun coverable txs fetched => (compares txs).mp (coverable.compares txs fetched)
  · intro amounts
    refine ⟨fetchWindow_nonempty counted, ⟨window, counted⟩, fun txs fetched => ?_⟩
    exact (compares txs).mpr (amounts txs fetched)

end FireflyToolkit
