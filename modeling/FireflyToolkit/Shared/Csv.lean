import Mathlib.Tactic.Common

set_option autoImplicit false

namespace Csv

abbrev Row := List (List Char)

section Writing

variable (delimiter : Char)

def special (character : Char) : Bool :=
  character == delimiter || character == '"' || character == '\r' || character == '\n'

def escaped (field : List Char) : List Char :=
  field.flatMap fun character => if character = '"' then ['"', '"'] else [character]

def writeField (field : List Char) : List Char :=
  if field.any (special delimiter) then '"' :: (escaped field ++ ['"']) else field

def writeFields : Row → List Char
  | [] => []
  | [field] => writeField delimiter field
  | field :: rest => writeField delimiter field ++ delimiter :: writeFields rest

/-- A row of one empty field would look like an empty row. -/
def writeRow (row : Row) : List Char :=
  (if row = [[]] then ['"', '"'] else writeFields delimiter row) ++ ['\r', '\n']

def write (rows : List Row) : List Char := rows.flatMap (writeRow delimiter)

end Writing

inductive Mode
  | startRecord | startField | inField | inQuotes | afterQuote | afterReturn
  deriving DecidableEq

structure Reader where
  mode : Mode
  field : List Char
  fields : Row
  rows : List Row

namespace Reader

def push (reader : Reader) (mode : Mode) (character : Char) : Reader :=
  { reader with mode, field := reader.field ++ [character] }

def save (reader : Reader) (mode : Mode) : Reader :=
  { reader with mode, field := [], fields := reader.fields ++ [reader.field] }

def endRow (reader : Reader) : Reader :=
  { mode := .startRecord, field := [], fields := [], rows := reader.rows ++ [reader.fields] }

def newline (reader : Reader) (character : Char) : Reader :=
  if character = '\n' then reader.endRow else { reader with mode := .afterReturn }

variable (delimiter : Char)

def inRecord (reader : Reader) (character : Char) : Reader :=
  match reader.mode with
  | .inQuotes =>
      if character = '"' then { reader with mode := .afterQuote } else reader.push .inQuotes character
  | mode =>
      if character = '\n' ∨ character = '\r' then (reader.save mode).newline character
      else if character = '"' ∧ mode = .startField then { reader with mode := .inQuotes }
      else if character = '"' ∧ mode = .afterQuote then reader.push .inQuotes character
      else if character = delimiter then reader.save .startField
      else reader.push .inField character

def start (reader : Reader) (character : Char) : Reader :=
  if character = '\n' ∨ character = '\r' then reader.newline character
  else inRecord delimiter { reader with mode := .startField } character

def step (reader : Reader) (character : Char) : Reader :=
  match reader.mode with
  | .startRecord => reader.start delimiter character
  | .afterReturn => if character = '\n' then reader.endRow else reader.endRow.start delimiter character
  | _ => reader.inRecord delimiter character

def run (reader : Reader) (text : List Char) : Reader := text.foldl (step delimiter) reader

def finish (reader : Reader) : List Row :=
  match reader.mode with
  | .startRecord => reader.rows
  | .afterReturn => reader.endRow.rows
  | mode => (reader.save mode).endRow.rows

end Reader

def begin : Reader := { mode := .startRecord, field := [], fields := [], rows := [] }

def read (delimiter : Char) (text : List Char) : List Row := (begin.run delimiter text).finish

example : read ';' "a;\"b;\"\"c\"\r\n;\n\n\"\"".toList =
    [["a".toList, "b;\"c".toList], [[], []], [], [[]]] := by decide

section RoundTrip

open Reader

variable {delimiter : Char} {field text : List Char} {fields : Row} {rows : List Row}

theorem run_append (reader : Reader) (left right : List Char) :
    reader.run delimiter (left ++ right) = (reader.run delimiter left).run delimiter right :=
  List.foldl_append

theorem run_quoted (text : List Char) :
    run delimiter ⟨.inQuotes, field, fields, rows⟩ (escaped text) =
      ⟨.inQuotes, field ++ text, fields, rows⟩ := by
  induction text generalizing field with
  | nil => simp [escaped, run]
  | cons character rest ih =>
    have first : run delimiter ⟨.inQuotes, field, fields, rows⟩
        (if character = '"' then ['"', '"'] else [character]) =
          ⟨.inQuotes, field ++ [character], fields, rows⟩ := by
      split_ifs with quote
      · simp [run, step, inRecord, push, quote]
      · simp [run, step, inRecord, push, quote]
    rw [escaped, List.flatMap_cons, run_append, first, ← escaped, ih]
    simp

theorem run_plain (plain : ∀ character ∈ text, special delimiter character = false) :
    run delimiter ⟨.inField, field, fields, rows⟩ text = ⟨.inField, field ++ text, fields, rows⟩ := by
  induction text generalizing field with
  | nil => simp [run]
  | cons character rest ih =>
    have own := plain character (by simp)
    simp only [special, Bool.or_eq_false_iff, beq_eq_false_iff_ne] at own
    obtain ⟨⟨⟨notDelimiter, notQuote⟩, notReturn⟩, notFeed⟩ := own
    have first : step delimiter ⟨.inField, field, fields, rows⟩ character =
        ⟨.inField, field ++ [character], fields, rows⟩ := by
      simp [step, inRecord, push, notDelimiter, notQuote, notReturn, notFeed]
    have later := @ih (field ++ [character]) fun other member => plain other (by simp [member])
    rw [run, List.foldl_cons, first, ← run, later]
    simp

def Mode.Open (mode : Mode) : Prop := mode = .startField ∨ mode = .inField ∨ mode = .afterQuote

structure IsDelimiter (delimiter : Char) : Prop where
  notQuote : delimiter ≠ '"'
  notReturn : delimiter ≠ '\r'
  notFeed : delimiter ≠ '\n'

theorem run_field (field : List Char) : ∃ mode : Mode, mode.Open ∧
    run delimiter ⟨.startField, [], fields, rows⟩ (writeField delimiter field) =
      ⟨mode, field, fields, rows⟩ := by
  unfold writeField
  split_ifs with quoted
  · refine ⟨.afterQuote, .inr (.inr rfl), ?_⟩
    have opened : step delimiter ⟨.startField, [], fields, rows⟩ '"' = ⟨.inQuotes, [], fields, rows⟩ := by
      simp [step, inRecord]
    rw [run, List.foldl_cons, opened, ← run, run_append, run_quoted]
    rfl
  · have plain : ∀ character ∈ field, special delimiter character = false := by
      intro character member
      by_contra marked
      exact quoted (List.any_eq_true.mpr ⟨character, member, by simpa using marked⟩)
    cases field with
    | nil => exact ⟨.startField, .inl rfl, rfl⟩
    | cons character rest =>
      refine ⟨.inField, .inr (.inl rfl), ?_⟩
      have own := plain character (by simp)
      simp only [special, Bool.or_eq_false_iff, beq_eq_false_iff_ne] at own
      obtain ⟨⟨⟨notDelimiter, notQuote⟩, notReturn⟩, notFeed⟩ := own
      have first : step delimiter ⟨.startField, [], fields, rows⟩ character =
          ⟨.inField, [character], fields, rows⟩ := by
        simp [step, inRecord, push, notDelimiter, notQuote, notReturn, notFeed]
      rw [run, List.foldl_cons, first, ← run,
        run_plain fun other member => plain other (by simp [member])]
      rfl

theorem step_delimiter (shape : IsDelimiter delimiter) {mode : Mode} (ends : mode.Open) :
    step delimiter ⟨mode, field, fields, rows⟩ delimiter =
      ⟨.startField, [], fields ++ [field], rows⟩ := by
  rcases ends with rfl | rfl | rfl <;>
    simp [step, inRecord, save, shape.notQuote, shape.notReturn, shape.notFeed]

theorem run_return {mode : Mode} (ends : mode.Open) :
    run delimiter ⟨mode, field, fields, rows⟩ ['\r', '\n'] =
      ⟨.startRecord, [], [], rows ++ [fields ++ [field]]⟩ := by
  rcases ends with rfl | rfl | rfl <;> simp [run, step, inRecord, save, newline, endRow]

theorem run_fields (shape : IsDelimiter delimiter) {row : Row} (some : row ≠ []) :
    run delimiter ⟨.startField, [], fields, rows⟩ (writeFields delimiter row ++ ['\r', '\n']) =
      ⟨.startRecord, [], [], rows ++ [fields ++ row]⟩ := by
  induction row using writeFields.induct generalizing fields with
  | case1 => exact absurd rfl some
  | case2 field =>
    obtain ⟨mode, ends, read⟩ := @run_field delimiter fields rows field
    rw [writeFields, run_append, read, run_return ends]
  | case3 field rest more ih =>
    obtain ⟨mode, ends, read⟩ := @run_field delimiter fields rows field
    rw [writeFields, List.append_assoc, run_append, read, List.cons_append, run, List.foldl_cons,
      step_delimiter shape ends, ← run, ih more]
    · simp
    · exact more

theorem start_field (text : List Char) (begins : ∀ character ∈ text.head?, character ≠ '\n' ∧ character ≠ '\r')
    (some : text ≠ []) :
    run delimiter ⟨.startRecord, [], [], rows⟩ text = run delimiter ⟨.startField, [], [], rows⟩ text := by
  obtain ⟨character, rest, rfl⟩ := List.exists_cons_of_ne_nil some
  have own := begins character rfl
  have first : step delimiter ⟨.startRecord, [], [], rows⟩ character =
      step delimiter ⟨.startField, [], [], rows⟩ character := by
    simp [step, start, own.1, own.2]
  simp only [run, List.foldl_cons, first]

theorem writeField_begins {field : List Char} (some : field ≠ []) :
    ∃ character rest, writeField delimiter field = character :: rest ∧
      character ≠ '\n' ∧ character ≠ '\r' := by
  unfold writeField
  split_ifs with quoted
  · exact ⟨'"', _, rfl, by decide⟩
  · obtain ⟨character, rest, rfl⟩ := List.exists_cons_of_ne_nil some
    simp only [List.any_cons, Bool.or_eq_true, not_or, special, beq_iff_eq] at quoted
    exact ⟨character, rest, rfl, quoted.1.2, quoted.1.1.2⟩

theorem writeFields_begins (shape : IsDelimiter delimiter) {row : Row} (some : row ≠ [])
    (visible : row ≠ [[]]) : ∃ character rest, writeFields delimiter row = character :: rest ∧
      character ≠ '\n' ∧ character ≠ '\r' := by
  obtain ⟨field, later, rfl⟩ := List.exists_cons_of_ne_nil some
  by_cases empty : field = []
  · cases later with
    | nil => exact absurd (by rw [empty]) visible
    | cons next others =>
      refine ⟨delimiter, writeFields delimiter (next :: others), ?_, shape.notFeed, shape.notReturn⟩
      simp [writeFields, writeField, empty]
  · obtain ⟨character, rest, written, begins⟩ := @writeField_begins delimiter field empty
    cases later with
    | nil => exact ⟨character, rest, by rw [writeFields, written], begins⟩
    | cons next others =>
      refine ⟨character, rest ++ delimiter :: writeFields delimiter (next :: others), ?_, begins⟩
      simp [writeFields, written]

theorem run_row (shape : IsDelimiter delimiter) (row : Row) :
    run delimiter ⟨.startRecord, [], [], rows⟩ (writeRow delimiter row) =
      ⟨.startRecord, [], [], rows ++ [row]⟩ := by
  by_cases none : row = []
  · simp [none, writeRow, writeFields, run, step, start, newline, endRow]
  · unfold writeRow
    split_ifs with empty
    · simp [empty, run, step, start, inRecord, save, newline, endRow]
    · obtain ⟨character, rest, written, begins⟩ := writeFields_begins shape none empty
      rw [start_field _ (by simpa [written] using begins) (by simp), run_fields shape none]
      rfl

theorem read_write (shape : IsDelimiter delimiter) (rows : List Row) :
    read delimiter (write delimiter rows) = rows := by
  have reached : ∀ before, run delimiter ⟨.startRecord, [], [], before⟩ (write delimiter rows) =
      ⟨.startRecord, [], [], before ++ rows⟩ := by
    induction rows with
    | nil => simp [write, run]
    | cons row rest ih =>
      intro before
      rw [write, List.flatMap_cons, run_append, run_row shape, ← write, ih]
      simp
  rw [read, begin, reached]
  rfl

end RoundTrip

end Csv
