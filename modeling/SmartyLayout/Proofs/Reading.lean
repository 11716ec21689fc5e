import SmartyLayout.Literal.Line
import SmartyLayout.Proofs.Lexeme

/-!
# SmartyLayout.Proofs.Reading — a text as a stream of units

Splitting a text into logical lines reads it as plain characters and whole literals. Here that
reading is described without the reader:

* `Atom.Reads d us`: each unit of the stream `us` is what stands at the front of the text from there
  on;
* `exists_reads`: every text is written by such a stream;
* `read_written`: its logical lines are what stands between the plain line breaks of any such
  stream;
* `Sound`: the literals of a stream have no blank at their ends.
-/

namespace SmartyLayout

namespace Atom

open Text

/-- The characters of a run of units. -/
def written (us : List Atom) : Text :=
  us.flatMap text

@[simp] theorem written_nil : written [] = [] := rfl

@[simp] theorem written_cons (a : Atom) (us : List Atom) : written (a :: us) = a.text ++ written us :=
  rfl

@[simp] theorem written_append (us vs : List Atom) : written (us ++ vs) = written us ++ written vs :=
  List.flatMap_append

@[simp] theorem text_ofAtoms (as : List Atom) : (LogicalLine.ofAtoms as).text = written as := rfl

@[simp] theorem text_plain (c : Char) : (plain c).text = [c] := rfl

@[simp] theorem text_literal (kind : Literal.Kind) (lexeme : Text) :
    (literal kind lexeme).text = lexeme := rfl

/-! ## Streams -/

/-- The unit is what stands at the front of the text it begins. -/
def Starts (d : Dialect) : Atom → Text → Prop
  | .plain c, rest => Literal.at? d (c :: rest) = none
  | .literal kind lexeme, rest => Literal.at? d (lexeme ++ rest) = some (kind, lexeme.length)

/-- Every unit of the stream is what stands at the front of the text from there on. -/
def Reads (d : Dialect) : List Atom → Prop
  | [] => True
  | a :: us => Starts d a (written us) ∧ Reads d us

variable {d : Dialect}

/-- What may be skipped is the rest of a literal. -/
theorem readFrom_skip (d : Dialect) (n : Nat) (t : Text) :
    readFrom d n t = readFrom d 0 (t.drop n) := by
  induction n generalizing t with
  | zero => rfl
  | succ n ih =>
    cases t with
    | nil => simp [readFrom]
    | cons c cs => simpa [readFrom] using ih cs

theorem read_of_at? {t : Text} {kind : Literal.Kind} {w : Nat}
    (h : Literal.at? d t = some (kind, w)) :
    read d t = (read d (t.drop w)).modifyHead (.literal kind (t.take w) :: ·) := by
  have hpos := Literal.width_pos_of_at? h
  obtain ⟨k, rfl⟩ : ∃ k, w = k + 1 := ⟨w - 1, by omega⟩
  cases t with
  | nil => simp [Literal.at?] at h
  | cons c cs => simp [read, readFrom, h, readFrom_skip d k]

theorem read_cons_of_at?_eq_none {c : Char} {cs : Text} (h : Literal.at? d (c :: cs) = none) :
    read d (c :: cs) =
      if c = '\n' then [] :: read d cs else (read d cs).modifyHead (.plain c :: ·) := by
  simp only [read, readFrom, h]
  split <;> rfl

/-- The logical lines of a text stand between the plain line breaks of any stream that it can be
read as. -/
theorem read_written {us : List Atom} (h : Reads d us) :
    read d (written us) = us.splitOn (.plain '\n') := by
  induction us with
  | nil => rfl
  | cons a us ih =>
    obtain ⟨hstart, hrest⟩ := h
    cases a with
    | plain c =>
      rw [written_cons, text_plain, List.singleton_append, read_cons_of_at?_eq_none hstart, ih hrest]
      by_cases hc : c = '\n'
      · simp [List.splitOn_cons_eq_if_modifyHead, hc]
      · simp [List.splitOn_cons_eq_if_modifyHead, hc]
    | literal kind lexeme =>
      -- breaks inside a literal split nothing
      rw [written_cons, text_literal, read_of_at? hstart, List.drop_left, List.take_left, ih hrest]
      simp [List.splitOn_cons_eq_if_modifyHead]

/-- Every text can be read as a stream. -/
theorem exists_reads (d : Dialect) (t : Text) : ∃ us, written us = t ∧ Reads d us := by
  -- on the length of the text, since a literal takes more than one character
  induction hn : t.length using Nat.strong_induction_on generalizing t with
  | _ n ih =>
    cases t with
    | nil => exact ⟨[], rfl, trivial⟩
    | cons c cs =>
      cases hat : Literal.at? d (c :: cs) with
      | none =>
        obtain ⟨us, rfl, hus⟩ := ih cs.length (by simp [← hn]) cs rfl
        exact ⟨.plain c :: us, rfl, hat, hus⟩
      | some found =>
        obtain ⟨kind, w⟩ := found
        have hpos := Literal.width_pos_of_at? hat
        have hle := (Literal.at?_local d).width_le hat
        have hshort : ((c :: cs).drop w).length < n := by
          rw [List.length_drop, hn]
          simp only [hn] at hle
          omega
        obtain ⟨us, hwritten, hus⟩ := ih _ hshort ((c :: cs).drop w) rfl
        have htext : (c :: cs).take w ++ written us = c :: cs := by
          rw [hwritten, List.take_append_drop]
        refine ⟨.literal kind ((c :: cs).take w) :: us, htext, ?_, hus⟩
        simp only [Starts, htext, hat, List.length_take, Nat.min_eq_left hle]

/-- The stream that a text is read as. -/
def stream (d : Dialect) (t : Text) : List Atom :=
  [.plain '\n'].intercalate (read d t)

theorem stream_written {us : List Atom} (h : Reads d us) : stream d (written us) = us := by
  rw [stream, read_written h]
  exact List.intercalate_splitOn _

theorem reads_stream (d : Dialect) (t : Text) : Reads d (stream d t) := by
  obtain ⟨us, rfl, hus⟩ := exists_reads d t
  rwa [stream_written hus]

@[simp] theorem written_stream (d : Dialect) (t : Text) : written (stream d t) = t := by
  obtain ⟨us, rfl, hus⟩ := exists_reads d t
  rw [stream_written hus]

/-! ## What a stream is made of -/

/-- The text of a literal has no blank at its ends. -/
def Sound : Atom → Prop
  | .plain _ => True
  | .literal _ lexeme => lexeme.Solid

theorem sound_of_starts {a : Atom} {rest : Text} (h : Starts d a rest) : a.Sound := by
  cases a with
  | plain c => trivial
  | literal kind lexeme =>
    have hsolid := Literal.solid_of_at? h
    rwa [List.take_left] at hsolid

theorem Reads.sound {us : List Atom} (h : Reads d us) : ∀ a ∈ us, a.Sound := by
  induction us with
  | nil => simp
  | cons a us ih =>
    intro b hb
    rcases List.mem_cons.1 hb with rfl | hb
    · exact sound_of_starts h.1
    · exact ih h.2 b hb

theorem Reads.of_append {us vs : List Atom} (h : Reads d (us ++ vs)) : Reads d vs := by
  induction us with
  | nil => exact h
  | cons a us ih => exact ih h.2

/-- Lines joined by plain line breaks are written one below the other. -/
theorem written_intercalate (lines : List (List Atom)) :
    written ([.plain '\n'].intercalate lines) = unlines (lines.map written) :=
  flatMap_intercalate (text_plain '\n') lines

end Atom

end SmartyLayout
