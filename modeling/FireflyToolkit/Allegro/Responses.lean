import FireflyToolkit.Allegro.Application
import FireflyToolkit.Firefly.Responses

set_option autoImplicit false

namespace FireflyToolkit.Allegro

open PyBuiltins

structure AllegroPayment where
  amount : Decimal
  date : Date
  details : List String
  isBalanced : Bool
  allegroLogin : String
  externalId : String
  externalShortId : String

structure ApiMatchResult where
  tx : SimplifiedTx
  txMatches : List AllegroPayment
  status : MatchProcessingStatus

structure AllegroMatchResponse where
  login : String
  paymentsFetched : Nat
  transactionsFound : Nat
  transactionsNotMatched : Nat
  transactionsWithOneMatch : Nat
  transactionsWithManyMatches : Nat
  content : List ApiMatchResult
  unmatchedPayments : List AllegroPayment

def mapAllegroPaymentToResponse (payment : AllegroOrderPayment) : Except PyError AllegroPayment := do
  let amount ← toFloat payment.amount
  .ok
    { amount := amount
      date := payment.date
      details := payment.details
      isBalanced := payment.isBalanced
      allegroLogin := payment.allegroLogin
      externalId := payment.externalId
      externalShortId := payment.externalShortId }

def mapMatchResultToApi (result : MatchResult AllegroOrderPayment) : Except PyError ApiMatchResult := do
  let simplifiedTx ← mapTxToApi result.tx
  let matchesApi ← result.txMatches.mapM mapAllegroPaymentToResponse
  .ok { tx := simplifiedTx, txMatches := matchesApi, status := result.status }

def mapMatchPreviewToApi (preview : MatchPreview) : Except PyError AllegroMatchResponse := do
  let content ← preview.content.mapM mapMatchResultToApi
  let unmatchedPayments ← preview.unmatchedPayments.mapM mapAllegroPaymentToResponse
  .ok
    { login := preview.login
      paymentsFetched := preview.paymentsFetched
      transactionsFound := preview.transactionsFound
      transactionsNotMatched := preview.transactionsNotMatched
      transactionsWithOneMatch := preview.transactionsWithOneMatch
      transactionsWithManyMatches := preview.transactionsWithManyMatches
      content := content
      unmatchedPayments := unmatchedPayments }

theorem mapAllegroPaymentToResponse_ok_iff {payment : AllegroOrderPayment} :
    (∃ answer, mapAllegroPaymentToResponse payment = .ok answer) ↔ payment.amount.isSignaling = false := by
  constructor
  · rintro ⟨answer, mapped⟩
    obtain ⟨amount, converted, -⟩ := bind_eq_ok.mp mapped
    exact (toFloat_ok_iff.mp converted).1
  · intro quiet
    exact ⟨_, bind_eq_ok.mpr ⟨_, toFloat_ok_iff.mpr ⟨quiet, rfl⟩, rfl⟩⟩

theorem mapMatchResultToApi_ok_iff {result : MatchResult AllegroOrderPayment} :
    (∃ answer, mapMatchResultToApi result = .ok answer) ↔
      result.tx.Renders ∧ ∀ payment ∈ result.txMatches, payment.amount.isSignaling = false := by
  have payments := @mapM_ok_iff _ _ _ mapAllegroPaymentToResponse result.txMatches
  simp only [mapAllegroPaymentToResponse_ok_iff] at payments
  rw [← mapTxToApi_ok_iff, ← payments]
  constructor
  · rintro ⟨answer, mapped⟩
    obtain ⟨simplifiedTx, rendered, later⟩ := bind_eq_ok.mp mapped
    obtain ⟨matchesApi, shown, -⟩ := bind_eq_ok.mp later
    exact ⟨⟨_, rendered⟩, _, shown⟩
  · rintro ⟨⟨simplifiedTx, rendered⟩, matchesApi, shown⟩
    exact ⟨_, bind_eq_ok.mpr ⟨_, rendered, bind_eq_ok.mpr ⟨_, shown, rfl⟩⟩⟩

theorem mapMatchPreviewToApi_ok_iff {preview : MatchPreview} :
    (∃ response, mapMatchPreviewToApi preview = .ok response) ↔
      (∀ result ∈ preview.content, result.tx.Renders ∧
        ∀ payment ∈ result.txMatches, payment.amount.isSignaling = false) ∧
        ∀ payment ∈ preview.unmatchedPayments, payment.amount.isSignaling = false := by
  have results := @mapM_ok_iff _ _ _ mapMatchResultToApi preview.content
  have payments := @mapM_ok_iff _ _ _ mapAllegroPaymentToResponse preview.unmatchedPayments
  simp only [mapMatchResultToApi_ok_iff] at results
  simp only [mapAllegroPaymentToResponse_ok_iff] at payments
  rw [← results, ← payments]
  constructor
  · rintro ⟨response, mapped⟩
    obtain ⟨content, found, later⟩ := bind_eq_ok.mp mapped
    obtain ⟨unmatchedPayments, shown, -⟩ := bind_eq_ok.mp later
    exact ⟨⟨_, found⟩, _, shown⟩
  · rintro ⟨⟨content, found⟩, unmatchedPayments, shown⟩
    exact ⟨_, bind_eq_ok.mpr ⟨_, found, bind_eq_ok.mpr ⟨_, shown, rfl⟩⟩⟩

theorem mapMatchPreviewToApi_shows {preview : MatchPreview} {response : AllegroMatchResponse}
    {result : MatchResult AllegroOrderPayment} {payment : AllegroOrderPayment}
    (mapped : mapMatchPreviewToApi preview = .ok response) (listed : result ∈ preview.content)
    (candidate : payment ∈ result.txMatches) :
    ∃ shown ∈ response.content, mapTxToApi result.tx = .ok shown.tx ∧
      ∃ answer ∈ shown.txMatches, mapAllegroPaymentToResponse payment = .ok answer := by
  obtain ⟨content, found, later⟩ := bind_eq_ok.mp mapped
  obtain ⟨unmatchedPayments, -, returned⟩ := bind_eq_ok.mp later
  obtain ⟨shown, inside, answered⟩ := mapM_mem found listed
  obtain ⟨simplifiedTx, rendered, later⟩ := bind_eq_ok.mp answered
  obtain ⟨matchesApi, shownMatches, made⟩ := bind_eq_ok.mp later
  rw [← Except.ok.inj returned]
  refine ⟨shown, inside, ?_, ?_⟩
  · rw [← Except.ok.inj made]
    exact rendered
  · rw [← Except.ok.inj made]
    exact mapM_mem shownMatches candidate

end FireflyToolkit.Allegro
