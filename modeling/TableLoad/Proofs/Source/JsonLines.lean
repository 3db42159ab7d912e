import TableLoad.Proofs.Json.Blanks
import TableLoad.Proofs.Outcome
import TableLoad.Proofs.Text.Trimming
import TableLoad.Source.JsonLines

/-!
# Joined JSON lines

Two texts with a line ending between them are read one after the other: lines do not reach
across a line ending, and a carriage return that becomes part of one was white space before.
-/

set_option autoImplicit false

namespace TableLoad.Source

open Unicode (isWhiteSpace)

/-! ## Single lines -/

/-- Lines that make the same record, or both none. -/
def ReadAlike (a b : List Char) : Prop :=
  isBlankLine a = isBlankLine b ∧ lineRecord? a = lineRecord? b

theorem ReadAlike.symm {a b : List Char} (same : ReadAlike a b) : ReadAlike b a :=
  ⟨same.1.symm, same.2.symm⟩

theorem isBlankLine_iff (line : List Char) :
    isBlankLine line = true ↔ ∀ c ∈ line, isWhiteSpace c = true := by
  rw [isBlankLine, List.isEmpty_iff, Unicode.trim_eq_nil_iff]

theorem encode_return (line : List Char) :
    Utf8.encode (String.ofList (line ++ ['\r'])) = Utf8.encode (String.ofList line) ++ [0x0d] := by
  simp only [Utf8.encode, String.ofList_append, String.toUTF8_eq_toByteArray,
    String.toByteArray_append, ByteArray.data_append, Array.toList_append]
  rfl

theorem lineRecord_return (line : List Char) :
    lineRecord? (line ++ ['\r']) = lineRecord? line := by
  have blank : Json.isBlank 0x0d = true := by decide
  rw [lineRecord?, lineRecord?, encode_return, Json.read_blank blank]
  cases Json.read (Utf8.encode (String.ofList line)) with
  | none => rfl
  | some found =>
    obtain ⟨json, rest⟩ := found
    simp only [Option.map_some, Json.leaving, Option.bind_eq_bind, Option.bind_some,
      Json.isSpent_blank blank]

theorem readAlike_return (line : List Char) : ReadAlike (line ++ ['\r']) line := by
  refine ⟨?_, lineRecord_return line⟩
  have white : isWhiteSpace '\r' = true := by decide
  rw [Bool.eq_iff_iff, isBlankLine_iff, isBlankLine_iff]
  simp [or_imp, forall_and, white]

theorem readAlike_dropReturn (line : List Char) :
    ReadAlike (dropReturn line).reverse line.reverse := by
  unfold dropReturn
  split
  · rename_i rest
    rw [List.reverse_cons]
    exact (readAlike_return rest.reverse).symm
  · exact ⟨rfl, rfl⟩

/-! ## Runs of lines -/

theorem lineRecords_cons_congr {a b : List Char} {front back : List (List Char)} {number : Nat}
    (same : ReadAlike a b)
    (later : lineRecords (number + 1) front = lineRecords (number + 1) back) :
    lineRecords number (a :: front) = lineRecords number (b :: back) := by
  rw [lineRecords, lineRecords, same.1, same.2, later]

theorem lineRecords_blank {line : List Char} (blank : isBlankLine line = true) (number : Nat)
    (rest : List (List Char)) :
    lineRecords number (line :: rest) = lineRecords (number + 1) rest := by
  rw [lineRecords, if_pos blank]

def JsonLinesError.after (lines : Nat) : JsonLinesError → JsonLinesError
  | .invalidText => .invalidText
  | .line number => .line (lines + number)

/-- The records of a text and of another that follows it, after some lines. -/
def followedBy (front : Except JsonLinesError (List Record)) (lines : Nat)
    (back : Except JsonLinesError (List Record)) : Except JsonLinesError (List Record) := do
  let first ← front
  let second ← back.mapError (·.after lines)
  return first ++ second

theorem followedBy_nil (front : Except JsonLinesError (List Record)) (lines : Nat) :
    followedBy front lines (.ok []) = front := by
  cases front with
  | error cause => rfl
  | ok records => exact congrArg _ (List.append_nil records)

theorem lineRecords_shift (lines number : Nat) (rest : List (List Char)) :
    lineRecords (lines + number) rest = (lineRecords number rest).mapError (·.after lines) := by
  induction rest generalizing number with
  | nil => rfl
  | cons line rest ih =>
    rw [lineRecords, lineRecords, Nat.add_assoc, ih (number + 1)]
    split
    · rfl
    · cases lineRecord? line with
      | none => rfl
      | some record => cases lineRecords (number + 1) rest <;> rfl

theorem lineRecords_append (front back : List (List Char)) (number : Nat) :
    lineRecords number (front ++ back) =
      (lineRecords number front).bind fun first =>
        (lineRecords (number + front.length) back).map (first ++ ·) := by
  induction front generalizing number with
  | nil =>
    rw [List.nil_append, List.length_nil, Nat.add_zero]
    cases lineRecords number back <;> rfl
  | cons line rest ih =>
    have count : number + (line :: rest).length = number + 1 + rest.length := by
      rw [List.length_cons]
      omega
    rw [List.cons_append, lineRecords, lineRecords, ih (number + 1), count]
    split
    · rfl
    · cases lineRecord? line with
      | none => rfl
      | some record =>
        cases lineRecords (number + 1) rest with
        | error cause => rfl
        | ok first => cases lineRecords (number + 1 + rest.length) back <;> rfl

theorem lineRecords_followed (front back : List (List Char)) :
    lineRecords 1 (front ++ back) =
      followedBy (lineRecords 1 front) front.length (lineRecords 1 back) := by
  rw [lineRecords_append, Nat.add_comm, lineRecords_shift, followedBy]
  cases lineRecords 1 front with
  | error cause => rfl
  | ok first => cases lineRecords 1 back <;> rfl

/-! ## Splitting -/

theorem splitLines_newline (line rest : List Char) :
    splitLines line ('\n' :: rest) = (dropReturn line).reverse :: splitLines [] rest := by
  rw [splitLines]

theorem splitLines_other (line rest : List Char) {c : Char} (other : c ≠ '\n') :
    splitLines line (c :: rest) = splitLines (c :: line) rest := by
  rw [splitLines]
  exact other

theorem splitLines_append (line a b : List Char) :
    splitLines line (a ++ '\n' :: b) = splitLines line (a ++ ['\n']) ++ splitLines [] b := by
  induction a generalizing line with
  | nil =>
    rw [List.nil_append, List.nil_append, splitLines_newline, splitLines_newline]
    rfl
  | cons c rest ih =>
    rw [List.cons_append, List.cons_append]
    by_cases newline : c = '\n'
    · subst newline
      rw [splitLines_newline, splitLines_newline, ih, List.cons_append]
    · rw [splitLines_other _ _ newline, splitLines_other _ _ newline, ih]

/-- What makes no difference after an open line makes none after a text. -/
theorem lineRecords_ended (ending : List Char)
    (pending : ∀ line number, lineRecords number (splitLines line ending) =
      lineRecords number (splitLines line []))
    (text : List Char) (number : Nat) :
    lineRecords number (splitLines [] (text ++ ending)) =
      lineRecords number (splitLines [] text) := by
  suffices ∀ line, lineRecords number (splitLines line (text ++ ending)) =
      lineRecords number (splitLines line text) from this []
  intro line
  induction text generalizing line number with
  | nil => exact pending line number
  | cons c rest ih =>
    rw [List.cons_append]
    by_cases newline : c = '\n'
    · subst newline
      rw [splitLines_newline, splitLines_newline]
      exact lineRecords_cons_congr ⟨rfl, rfl⟩ (ih (number + 1) [])
    · rw [splitLines_other _ _ newline, splitLines_other _ _ newline]
      exact ih number (c :: line)

theorem lineRecords_newline (text : List Char) (number : Nat) :
    lineRecords number (splitLines [] (text ++ ['\n'])) =
      lineRecords number (splitLines [] text) := by
  refine lineRecords_ended _ (fun line number => ?_) text number
  rw [splitLines_newline]
  cases line with
  | nil => exact lineRecords_blank rfl number []
  | cons c line => exact lineRecords_cons_congr (readAlike_dropReturn (c :: line)) rfl

theorem lineRecords_return (text : List Char) (number : Nat) :
    lineRecords number (splitLines [] (text ++ ['\r'])) =
      lineRecords number (splitLines [] text) := by
  refine lineRecords_ended _ (fun line number => ?_) text number
  rw [splitLines_other _ _ (by decide)]
  cases line with
  | nil => exact lineRecords_blank (by decide) number []
  | cons c line =>
    rw [splitLines, splitLines, List.reverse_cons]
    exact lineRecords_cons_congr (readAlike_return _) rfl

theorem lineRecords_white (line text : List Char) (number : Nat)
    (pending : ∀ c ∈ line, isWhiteSpace c = true) (white : ∀ c ∈ text, isWhiteSpace c = true) :
    lineRecords number (splitLines line text) = .ok [] := by
  induction text generalizing line number with
  | nil =>
    cases line with
    | nil => rfl
    | cons c line =>
      have blank : isBlankLine (c :: line).reverse = true :=
        (isBlankLine_iff _).mpr fun d member => pending d (List.mem_reverse.mp member)
      rw [splitLines, lineRecords_blank blank]
      rfl
  | cons c rest ih =>
    obtain ⟨first, later⟩ := List.forall_mem_cons.mp white
    by_cases newline : c = '\n'
    · subst newline
      have blank : isBlankLine (dropReturn line).reverse = true := by
        rw [(readAlike_dropReturn line).1, isBlankLine_iff]
        exact fun d member => pending d (List.mem_reverse.mp member)
      rw [splitLines_newline, lineRecords_blank blank]
      exact ih [] (number + 1) (by simp) later
    · rw [splitLines_other _ _ newline]
      exact ih (c :: line) number (List.forall_mem_cons.mpr ⟨first, pending⟩) later

/-! ## Texts -/

inductive LineEnding
  | newline
  | returnNewline
deriving DecidableEq, Repr

def LineEnding.text : LineEnding → String
  | .newline => "\n"
  | .returnNewline => "\r\n"

def readText (text : String) : Except JsonLinesError (List Record) :=
  readJsonLines (Utf8.encode text)

theorem readText_eq (text : String) :
    readText text = lineRecords 1 (splitLines [] text.toList) := by
  rw [readText, readJsonLines, Utf8.decode_encode]
  rfl

def lineCount (text : String) : Nat :=
  (splitLines [] text.toList).length

theorem readText_newline (a b : String) :
    readText (a ++ "\n" ++ b) = followedBy (readText a) (lineCount (a ++ "\n")) (readText b) := by
  have newline : "\n".toList = ['\n'] := rfl
  rw [readText_eq, readText_eq, readText_eq, lineCount, String.toList_append, String.toList_append,
    newline, List.append_assoc, List.singleton_append, splitLines_append, lineRecords_followed,
    lineRecords_newline]

theorem readText_joined (a b : String) (ending : LineEnding) :
    readText (a ++ ending.text ++ b) =
      followedBy (readText a) (lineCount (a ++ ending.text)) (readText b) := by
  cases ending with
  | newline => exact readText_newline a b
  | returnNewline =>
    have split : a ++ "\r\n" = a ++ "\r" ++ "\n" := by
      rw [String.append_assoc]
      rfl
    have same : readText (a ++ "\r") = readText a := by
      rw [readText_eq, readText_eq, String.toList_append]
      exact lineRecords_return a.toList 1
    rw [LineEnding.text, split, readText_newline, same]

theorem readText_white (text : String) (white : ∀ c ∈ text.toList, isWhiteSpace c = true) :
    readText text = .ok [] := by
  rw [readText_eq]
  exact lineRecords_white [] text.toList 1 (by simp) white

def withReturn (c : Char) : List Char :=
  if c = '\n' then ['\r', '\n'] else [c]

/-- The text with a carriage return more before every newline. -/
def withReturns (text : String) : String :=
  String.ofList (text.toList.flatMap withReturn)

theorem lineRecords_withReturns (line text : List Char) (number : Nat) :
    lineRecords number (splitLines line (text.flatMap withReturn)) =
      lineRecords number (splitLines line text) := by
  induction text generalizing line number with
  | nil => rfl
  | cons c rest ih =>
    rw [List.flatMap_cons, withReturn]
    by_cases newline : c = '\n'
    · subst newline
      rw [if_pos rfl, List.cons_append, List.singleton_append, splitLines_other _ _ (by decide),
        splitLines_newline, splitLines_newline]
      exact lineRecords_cons_congr (readAlike_dropReturn line).symm (ih [] (number + 1))
    · rw [if_neg newline, List.singleton_append, splitLines_other _ _ newline,
        splitLines_other _ _ newline]
      exact ih (c :: line) number

theorem readText_withReturns (text : String) : readText (withReturns text) = readText text := by
  rw [readText_eq, readText_eq, withReturns, String.toList_ofList]
  exact lineRecords_withReturns [] text.toList 1

theorem lineRecords_fails_at_line (lines : List (List Char)) (number : Nat)
    (cause : JsonLinesError) (failed : lineRecords number lines = .error cause) :
    ∃ line, number ≤ line ∧ line < number + lines.length ∧ cause = .line line := by
  induction lines generalizing number with
  | nil => cases failed
  | cons line rest ih =>
    rw [lineRecords] at failed
    rw [List.length_cons]
    have later : lineRecords (number + 1) rest = .error cause →
        ∃ line, number ≤ line ∧ line < number + (rest.length + 1) ∧ cause = .line line := by
      intro failed
      obtain ⟨place, above, below, rfl⟩ := ih (number + 1) failed
      exact ⟨place, by omega, by omega, rfl⟩
    split at failed
    · exact later failed
    · split at failed
      · cases failed
        exact ⟨number, by omega, by omega, rfl⟩
      · cases tail : lineRecords (number + 1) rest with
        | error reason =>
          rw [tail] at failed
          cases failed
          exact later tail
        | ok records =>
          rw [tail] at failed
          cases failed

/-- Two texts with a line ending between them make the records of the first and then those
of the second, or fail as the first one does, or else as the second one does with its line
counted from the front.  White space on lines of its own, wherever it stands, moves lines
but makes no record, and carriage returns before newlines do neither. -/
theorem json_lines_joined (a b : String) (ending : LineEnding) :
    readText (a ++ ending.text ++ b) =
      followedBy (readText a) (lineCount (a ++ ending.text)) (readText b) ∧
    (∀ cause, readText a = .error cause →
      ∃ line, 1 ≤ line ∧ line ≤ lineCount a ∧ cause = .line line) ∧
    readText (withReturns a) = readText a ∧
    ∀ white : String, (∀ c ∈ white.toList, isWhiteSpace c = true) →
      readText (a ++ ending.text ++ white) = readText a ∧
      ∀ later : LineEnding,
        readText (white ++ later.text ++ b) =
          (readText b).mapError (·.after (lineCount (white ++ later.text))) ∧
        readText (a ++ ending.text ++ white ++ later.text ++ b) =
          followedBy (readText a) (lineCount (a ++ ending.text ++ white ++ later.text))
            (readText b) := by
  refine ⟨readText_joined a b ending, ?_, readText_withReturns a, ?_⟩
  · intro cause failed
    rw [readText_eq] at failed
    obtain ⟨line, above, below, rfl⟩ := lineRecords_fails_at_line _ 1 cause failed
    exact ⟨line, above, by rw [lineCount]; omega, rfl⟩
  · intro white blank
    have nothing := readText_white white blank
    have ended : readText (a ++ ending.text ++ white) = readText a := by
      rw [readText_joined, nothing, followedBy_nil]
    refine ⟨ended, fun later => ⟨?_, ?_⟩⟩
    · rw [readText_joined, nothing]
      cases readText b <;> rfl
    · rw [readText_joined, ended]

/-- An open list on the second line of a text is blamed five lines down. -/
theorem open_list_blamed :
    (∀ c ∈ " \t".toList, isWhiteSpace c = true) ∧
      readText "[1]\r\n2" = .ok [.positional .tuple [.int 1], Record.scalar (.int 2)] ∧
      readText "\"x\"\n[" = .error (.line 2) ∧
      readText ("[1]\r\n2" ++ "\r\n" ++ " \t" ++ "\n" ++ "\"x\"\n[") = .error (.line 5) := by
  have white : ∀ c ∈ " \t".toList, isWhiteSpace c = true :=
    List.all_eq_true.mp (by decide)
  have front : readText "[1]\r\n2" =
      .ok [.positional .tuple [.int 1], Record.scalar (.int 2)] := by
    rw [readText_eq]
    rfl
  have back : readText "\"x\"\n[" = .error (.line 2) := by
    rw [readText_eq]
    rfl
  have joined := json_lines_joined "[1]\r\n2" "\"x\"\n[" .returnNewline
  have whole := ((joined.2.2.2 " \t" white).2 .newline).2
  rw [front, back] at whole
  exact ⟨white, front, back, whole⟩

end TableLoad.Source
