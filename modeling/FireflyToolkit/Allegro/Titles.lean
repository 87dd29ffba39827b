import FireflyToolkit.Allegro.Orders
import FireflyToolkit.Shared.Prefixes

set_option autoImplicit false

namespace FireflyToolkit.Allegro

open Prefixes
open PyText (words)

structure TitleFits (kept : List (List Char)) : Prop where
  few : kept.length ≤ 3
  short : ([' '].intercalate kept).length ≤ 32

theorem titleFits_nil : TitleFits [] := ⟨by decide, by decide⟩

theorem titleFits_closed : Closed TitleFits := by
  intro front whole initial fits
  exact ⟨initial.length_le.trans fits.few, (length_intercalate_initial ' ' initial).trans fits.short⟩

section Shortened

variable (tables : TitleTables)

-- The running length is that of the joined words, so the loop ends at the first word that does
-- not fit.
theorem shortenWords_longest (result rest : List (List Char)) (fits : TitleFits result) :
    Longest TitleFits (shortenWords tables result ([' '].intercalate result).length rest)
      (result ++ rest.map (formatWord tables)) := by
  induction rest generalizing result with
  | nil =>
    rw [List.map_nil, List.append_nil]
    exact longest_whole fits
  | cons word rest ih =>
    have counted := @length_intercalate_append Char result ' ' (formatWord tables word)
    rw [shortenWords, List.map_cons]
    rw [← counted]
    split_ifs with more
    · have next : TitleFits (result ++ [formatWord tables word]) := by
        refine ⟨?_, more.2⟩
        rw [List.length_append, List.length_singleton]
        exact more.1
      have whole := ih (result ++ [formatWord tables word]) next
      rwa [List.append_assoc, List.singleton_append] at whole
    · refine longest_stop titleFits_closed fits fun next => more ⟨?_, next.short⟩
      have few := next.few
      rwa [List.length_append, List.length_singleton] at few

def Offer.cleanTitle (offer : Offer) : List Char :=
  offer.title.toList.filter fun character =>
    tables.isWord character || PyBuiltins.isSpace character || character == '-'

-- The shortened title is put together from the longest prefix of the formatted words that fits.
theorem Offer.getSimplifiedTitle_longest (offer : Offer) :
    ∃ best, Longest TitleFits best ((words (offer.cleanTitle tables)).map (formatWord tables)) ∧
      (offer.getSimplifiedTitle tables).toList = [' '].intercalate best ∧
      (offer.getSimplifiedTitle tables).length ≤ 32 := by
  have whole := shortenWords_longest tables [] (words (offer.cleanTitle tables)) titleFits_nil
  refine ⟨_, whole, String.toList_ofList, ?_⟩
  rw [← String.length_toList, Offer.getSimplifiedTitle, String.toList_ofList]
  exact whole.fitting.short

end Shortened

end FireflyToolkit.Allegro
