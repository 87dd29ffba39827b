import FireflyToolkit.Shared.Prefixes
import Mathlib.Data.List.DropRight
import Mathlib.Data.List.Infix

set_option autoImplicit false

namespace PosixPaths

open Prefixes (intercalate_append)

def join (left right : List Char) : List Char :=
  if ['/'] <+: right then right
  else if left = [] ∨ ['/'] <:+ left then left ++ right
  else left ++ '/' :: right

/-- Two slashes at the start are kept, three or more are one. -/
def initialSlashes (path : List Char) : Nat :=
  if ¬ ['/'] <+: path then 0
  else if ['/', '/'] <+: path ∧ ¬ ['/', '/', '/'] <+: path then 2
  else 1

def keepPart (absolute : Bool) (kept : List (List Char)) (part : List Char) : List (List Char) :=
  if part = [] ∨ part = ['.'] then kept
  else if part ≠ ['.', '.'] ∨ (absolute = false ∧ kept = []) ∨ kept.getLast? = some ['.', '.'] then
    kept ++ [part]
  else kept.dropLast

def normpath (path : List Char) : List Char :=
  if path = [] then ['.']
  else
    let slashes := initialSlashes path
    let parts := (path.splitOn '/').foldl (keepPart (slashes != 0)) []
    let normal := List.replicate slashes '/' ++ ['/'].intercalate parts
    if normal = [] then ['.'] else normal

def abspath (cwd path : List Char) : List Char :=
  normpath (if ['/'] <+: path then path else join cwd path)

def basename (path : List Char) : List Char := path.rtakeWhile fun character => character != '/'

/-- The last dot of a name begins the extension, unless only dots stand before it. -/
def splitext (path : List Char) : List Char × List Char :=
  let root := (path.rdropWhile fun character => character != '.').dropLast
  if '.' ∈ basename path ∧ (basename root).any (fun character => character != '.') = true then
    (root, '.' :: path.rtakeWhile fun character => character != '.')
  else (path, [])

example : normpath "//a/./b/../c//d".toList = "//a/c/d".toList := by decide

example : splitext "/a.b/..c".toList = ("/a.b/..c".toList, []) := by decide

structure IsPart (part : List Char) : Prop where
  some : part ≠ []
  notDot : part ≠ ['.']
  notParent : part ≠ ['.', '.']
  noSlash : '/' ∉ part

structure Directory where
  slashes : Nat
  parts : List (List Char)
  oneOrTwo : slashes = 1 ∨ slashes = 2
  plain : ∀ part ∈ parts, IsPart part

def Directory.path (directory : Directory) : List Char :=
  List.replicate directory.slashes '/' ++ ['/'].intercalate directory.parts

section Normal

variable {slashes : Nat} {parts : List (List Char)}

theorem foldl_keepPart (plain : ∀ part ∈ parts, IsPart part) (absolute : Bool) (kept : List (List Char)) :
    parts.foldl (keepPart absolute) kept = kept ++ parts := by
  induction parts generalizing kept with
  | nil => simp
  | cons part rest ih =>
    have own := plain part (by simp)
    have appended : keepPart absolute kept part = kept ++ [part] := by
      rw [keepPart, if_neg (not_or.mpr ⟨own.some, own.notDot⟩), if_pos (.inl own.notParent)]
    rw [List.foldl_cons, appended, ih fun other member => plain other (by simp [member])]
    simp

theorem head_intercalate (some : parts ≠ []) (plain : ∀ part ∈ parts, IsPart part) :
    ∃ first rest, ['/'].intercalate parts = first :: rest ∧ first ≠ '/' := by
  obtain ⟨part, others, rfl⟩ := List.exists_cons_of_ne_nil some
  have own := plain part (by simp)
  obtain ⟨first, tail, rfl⟩ := List.exists_cons_of_ne_nil own.some
  have notSlash : first ≠ '/' := fun same => own.noSlash (by simp [same])
  cases others with
  | nil => exact ⟨first, tail, by simp, notSlash⟩
  | cons next later =>
    refine ⟨first, tail ++ '/' :: ['/'].intercalate (next :: later), ?_, notSlash⟩
    rw [List.intercalate_cons_of_ne_nil (by simp)]
    simp

theorem splitOn_path (oneOrTwo : slashes = 1 ∨ slashes = 2) (some : parts ≠ [])
    (plain : ∀ part ∈ parts, IsPart part) :
    (List.replicate slashes '/' ++ ['/'].intercalate parts).splitOn '/' =
      List.replicate slashes [] ++ parts := by
  have joined : List.replicate slashes '/' ++ ['/'].intercalate parts =
      ['/'].intercalate (List.replicate slashes [] ++ parts) := by
    rcases oneOrTwo with rfl | rfl
    · simp [List.intercalate_cons_of_ne_nil, some]
    · simp [List.intercalate_cons_of_ne_nil, some, List.replicate_succ]
  rw [joined]
  refine List.splitOn_intercalate _ ?_ (by simp [some])
  intro part member
  rcases List.mem_append.mp member with empty | own
  · rw [List.eq_of_mem_replicate empty]
    simp
  · exact (plain part own).noSlash

theorem normpath_normal (oneOrTwo : slashes = 1 ∨ slashes = 2) (plain : ∀ part ∈ parts, IsPart part) :
    normpath (List.replicate slashes '/' ++ ['/'].intercalate parts) =
      List.replicate slashes '/' ++ ['/'].intercalate parts := by
  by_cases none : parts = []
  · rw [none]
    rcases oneOrTwo with rfl | rfl <;> decide
  · obtain ⟨first, rest, begins, notSlash⟩ := head_intercalate none plain
    have counted : initialSlashes (List.replicate slashes '/' ++ ['/'].intercalate parts) = slashes := by
      rw [begins]
      rcases oneOrTwo with rfl | rfl
      · simp [initialSlashes, Ne.symm notSlash]
      · simp [initialSlashes, List.replicate_succ, Ne.symm notSlash]
    have skipped : (List.replicate slashes []).foldl (keepPart (slashes != 0)) [] = [] := by
      rcases oneOrTwo with rfl | rfl <;> decide
    have some : List.replicate slashes '/' ++ ['/'].intercalate parts ≠ [] := by simp [begins]
    rw [normpath, if_neg some]
    dsimp only
    rw [counted, splitOn_path oneOrTwo none plain, List.foldl_append, skipped,
      foldl_keepPart plain, List.nil_append, if_neg some]

theorem last_intercalate (some : parts ≠ []) (plain : ∀ part ∈ parts, IsPart part) :
    ∃ before last, ['/'].intercalate parts = before ++ [last] ∧ last ≠ '/' := by
  obtain ⟨others, part, rfl⟩ : ∃ others part, parts = others ++ [part] :=
    ⟨_, _, (List.dropLast_append_getLast some).symm⟩
  have own := plain part (by simp)
  obtain ⟨before, last, rfl⟩ : ∃ before last, part = before ++ [last] :=
    ⟨_, _, (List.dropLast_append_getLast own.some).symm⟩
  have notSlash : last ≠ '/' := fun same => own.noSlash (by simp [same])
  by_cases none : others = []
  · exact ⟨before, last, by simp [none], notSlash⟩
  · exact ⟨['/'].intercalate others ++ '/' :: before, last, by simp [intercalate_append none (List.cons_ne_nil _ _)], notSlash⟩

variable {part : List Char}

theorem IsPart.not_absolute (own : IsPart part) : ¬ ['/'] <+: part := by
  intro absolute
  exact own.noSlash (absolute.subset (by simp))

theorem join_part (directory : Directory) (own : IsPart part) :
    join directory.path part =
      List.replicate directory.slashes '/' ++ ['/'].intercalate (directory.parts ++ [part]) := by
  rw [join, if_neg own.not_absolute, Directory.path]
  by_cases none : directory.parts = []
  · have ends : ['/'] <:+ List.replicate directory.slashes '/' := by
      rcases directory.oneOrTwo with one | two
      · rw [one]
        decide
      · rw [two]
        decide
    rw [none, if_pos (.inr (by simpa using ends))]
    simp
  · obtain ⟨before, last, split, notSlash⟩ := last_intercalate none directory.plain
    have open' : ¬ ['/'] <:+ List.replicate directory.slashes '/' ++ ['/'].intercalate directory.parts := by
      rw [split, ← List.append_assoc]
      rintro ⟨front, same⟩
      exact notSlash (List.singleton_inj.mp (List.append_inj' same rfl).2).symm
    have some : List.replicate directory.slashes '/' ++ ['/'].intercalate directory.parts ≠ [] := by
      simp [split]
    rw [if_neg (not_or.mpr ⟨some, open'⟩), intercalate_append none (List.cons_ne_nil _ _),
      List.intercalate_singleton, List.append_assoc]

theorem normpath_join (directory : Directory) (own : IsPart part) :
    normpath (join directory.path part) = join directory.path part := by
  rw [join_part directory own]
  refine normpath_normal directory.oneOrTwo fun other member => ?_
  rcases List.mem_append.mp member with inside | last
  · exact directory.plain other inside
  · rwa [List.mem_singleton.mp last]

theorem abspath_directory (cwd : List Char) (directory : Directory) :
    abspath cwd directory.path = directory.path := by
  have absolute : ['/'] <+: directory.path := by
    rw [Directory.path]
    rcases directory.oneOrTwo with one | two
    · simp [one]
    · simp [two, List.replicate_succ]
  rw [abspath, if_pos absolute]
  exact normpath_normal directory.oneOrTwo directory.plain

theorem prefix_join (directory : Directory) (own : IsPart part) :
    directory.path <+: join directory.path part := by
  rw [join, if_neg own.not_absolute]
  split_ifs <;> exact List.prefix_append _ _

end Normal

section Last

variable {name tail : List Char} {separator : Char}

theorem others_kept (missing : separator ∉ tail) :
    ∀ character ∈ tail, (character != separator) = true := by
  intro character member
  rw [bne_iff_ne]
  rintro rfl
  exact missing member

theorem rtakeWhile_separator (missing : separator ∉ tail) (front : List Char) :
    (front ++ separator :: tail).rtakeWhile (fun character => character != separator) = tail := by
  have kept := others_kept (mt List.mem_reverse.mp missing)
  rw [List.rtakeWhile, List.reverse_append, List.reverse_cons, List.append_assoc,
    List.takeWhile_append_of_pos kept]
  simp

theorem rdropWhile_separator (missing : separator ∉ tail) (front : List Char) :
    (front ++ separator :: tail).rdropWhile (fun character => character != separator) =
      front ++ [separator] := by
  have kept := others_kept (mt List.mem_reverse.mp missing)
  rw [List.rdropWhile, List.reverse_append, List.reverse_cons, List.append_assoc,
    List.dropWhile_append_of_pos kept]
  simp

theorem basename_part (noSlash : '/' ∉ name) : basename name = name :=
  List.rtakeWhile_eq_self_iff.mpr (others_kept noSlash)

theorem basename_join (directory : Directory) (own : IsPart name) :
    basename (join directory.path name) = name := by
  rw [join, if_neg own.not_absolute]
  split_ifs with ends
  · have some : directory.path ≠ [] := by
      rcases directory.oneOrTwo with one | two
      · simp [Directory.path, one]
      · simp [Directory.path, two, List.replicate_succ]
    obtain ⟨front, split⟩ := ends.resolve_left some
    rw [← split, List.append_assoc]
    exact rtakeWhile_separator own.noSlash front
  · exact rtakeWhile_separator own.noSlash directory.path

theorem splitext_name {extension : List Char} (noSlash : '/' ∉ name ++ '.' :: extension)
    (noDot : '.' ∉ extension) (some : ∃ character ∈ name, character ≠ '.') :
    splitext (name ++ '.' :: extension) = (name, '.' :: extension) := by
  have nameNoSlash : '/' ∉ name := fun member => noSlash (List.mem_append_left _ member)
  have any : name.any (fun character => character != '.') = true := by simpa using some
  rw [splitext, rdropWhile_separator noDot, rtakeWhile_separator noDot, List.dropLast_concat,
    basename_part noSlash, basename_part nameNoSlash]
  exact if_pos ⟨by simp, any⟩

end Last

end PosixPaths
