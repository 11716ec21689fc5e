import SmartyLayout.Config.Reader
import SmartyLayout.Proofs.Tokenization

/-!
# SmartyLayout.Proofs.TagNames — names in settings and names in tags

Settings are refused if one of their tag names fails a test on its characters. The scanner of a line
knows nothing of this test: it takes as a name what it finds between an opener and a blank or a
closer. The two agree on what a name is.

* `isTagName_iff_isIdentifier`: the test accepts the identifiers;
* `isTagName_iff_leadingName`: it accepts what the scanner takes for a name as a whole;
* `Token.isTag_bare`: a tag made of a name that passes the test is read back as that tag;
* `Token.isTagName_of_mem_scan`: the name of a tag that was read passes the test, whatever the
  taxonomy, the masks and the line;
* `Config.tagFault?_cases`: in settings a list of names is refused for one that does not pass it.
-/

namespace SmartyLayout

open Text

/-! ## The test on a name -/

/-- A letter or an underscore, then letters, digits and underscores. -/
def IsIdentifier (n : Text) : Prop :=
  ∃ c cs, n = c :: cs ∧ (c.isAlpha = true ∨ c = '_') ∧ ∀ e ∈ cs, e.isAlphanum = true ∨ e = '_'

theorem isTagName_iff_isIdentifier (n : Text) : isTagName n = true ↔ IsIdentifier n := by
  cases n with
  | nil => simp [isTagName, IsIdentifier]
  | cons c cs => simp [isTagName, IsIdentifier]

/-- The scanner, which takes as much for a name as it can, takes all of a text that passes the test,
and of no other text. -/
theorem isTagName_iff_leadingName (n : Text) :
    isTagName n = true ↔ n ≠ [] ∧ leadingName n = n := by
  constructor
  · intro h
    obtain ⟨c, cs, rfl, -⟩ := TagShape.exists_cons_of_isTagName h
    have hread : leadingName (c :: cs ++ []) = c :: cs := TagShape.leadingName_append h (by simp)
    exact ⟨List.cons_ne_nil c cs, by rwa [List.append_nil] at hread⟩
  · rintro ⟨hne, hread⟩
    rw [← hread] at hne ⊢
    exact TagShape.isTagName_leadingName hne

/-! ## Tags made of a name -/

namespace TagShape

/-- The tag with this name and nothing behind the name, between an opener and its closer. -/
def bare (p : Text × Text) (closing : Bool) (name : Text) : Text :=
  p.1 ++ ((if closing then ['/'] else []) ++ name) ++ p.2

theorem read_bare {p : Text × Text} (hp : p ∈ delimiters) (closing : Bool) {name : Text}
    (hname : isTagName name = true) :
    read (bare p closing name) = some ⟨name, closing, (bare p closing name).length⟩ := by
  -- the closer follows the name at once, so the body of the tag is the closer alone
  have hcloser : startsWith p.2 p.2 = true := startsWith_iff.2 List.prefix_rfl
  have hend : (startsWith p.2 p.2 || (p.2.head?.map isBlank).getD false) = true := by
    rw [hcloser, Bool.true_or]
  exact read_eq_some_iff.2 ⟨p, hp, p.2, p.2.length, rfl, hname, hend,
    bodyWidth_of_startsWith hp hcloser, List.length_append⟩

end TagShape

namespace Token

variable {tax : Taxonomy} {role : Role} {name : Text}

/-- The text as a whole is read as this tag. -/
def IsTag (tax : Taxonomy) (role : Role) (name t : Text) : Prop :=
  scan tax [] t = [.tag role name ⟨0, size t⟩]

/-- A tag of this name is read from some line, under some taxonomy. -/
def Readable (name : Text) : Prop :=
  ∃ tax masks line role s, .tag role name s ∈ scan tax masks line

theorem isTag_bare {p : Text × Text} (hp : p ∈ TagShape.delimiters) {closing : Bool}
    (hname : isTagName name = true) (hclass : tax.classify name closing = some role) :
    IsTag tax role name (TagShape.bare p closing name) := by
  have hread := TagShape.read_bare hp closing hname
  -- the tag is the whole line: nothing stands in front of it, nothing behind it
  rw [← List.append_nil (TagShape.bare p closing name)] at hread
  have hscan : scanFrom tax [] 0 0 0 (TagShape.bare p closing name ++ []) = _ :=
    scanFrom_tag 0 rfl hread (by simp) hclass
  unfold IsTag scan
  simpa [scanFrom, plainBetween] using hscan

theorem isTagName_of_mem_scan {masks : List Span} {line : Text} {s : Span}
    (h : .tag role name s ∈ scan tax masks line) : isTagName name = true := by
  obtain ⟨i, -, -, shape, _, hread, -, htag⟩ :=
    (tag_mem_scanFrom_iff tax (List.nil_append line).symm (clear_zero masks line) 0).1 h
  obtain ⟨-, rfl, -⟩ := Token.tag.inj htag
  exact (TagShape.isWritten_of_read hread).1

theorem IsTag.isTagName {t : Text} (h : IsTag tax role name t) : isTagName name = true :=
  isTagName_of_mem_scan (h ▸ List.mem_singleton_self _)

end Token

namespace Taxonomy

open TagShape Token

/-- The name opens and closes blocks, in braces of either width. -/
def Recognises (tax : Taxonomy) (name : Text) : Prop :=
  ∀ p ∈ delimiters,
    IsTag tax .start name (bare p false name) ∧ IsTag tax .finish name (bare p true name)

theorem recognises_of_mem {tax : Taxonomy} {name : Text} (hname : isTagName name = true)
    (hstart : name ∈ tax.start) (hfinish : name ∈ tax.finish) : tax.Recognises name := by
  intro p hp
  constructor
  · exact isTag_bare hp hname (by simp [classify, hstart])
  · exact isTag_bare hp hname (by simp [classify, hfinish])

/-- Adding a block to a taxonomy makes its tags recognised if its name passes the test. -/
theorem recognises_addBlocks_iff {tax : Taxonomy} {name : Text} :
    (tax.addBlocks [name]).Recognises name ↔ isTagName name = true := by
  constructor
  · intro h
    exact (h (['{'], ['}']) List.mem_cons_self).1.isTagName
  · intro hname
    exact recognises_of_mem hname List.mem_cons_self List.mem_cons_self

end Taxonomy

theorem Token.readable_iff {n : Text} : Token.Readable n ↔ isTagName n = true := by
  constructor
  · rintro ⟨tax, masks, line, role, s, h⟩
    exact isTagName_of_mem_scan h
  · intro hname
    -- the line to read it from is the opening tag itself
    have hblock : (Taxonomy.default.addBlocks [n]).Recognises n :=
      Taxonomy.recognises_addBlocks_iff.2 hname
    have htag := (hblock (['{'], ['}']) List.mem_cons_self).1
    exact ⟨_, [], _, .start, _, htag ▸ List.mem_singleton_self _⟩

/-! ## Names in settings -/

namespace Config

/-- A list of names is passed, or the first name that fails the test is reported. -/
theorem tagFault?_cases (key : String) (names : List Text) :
    (tagFault? key names = none ∧ ∀ n ∈ names, isTagName n = true) ∨
    ∃ n ∈ names, isTagName n = false ∧ tagFault? key names =
      some (.invalidValue key ("'" ++ String.ofList n ++ "' is not a valid tag name")) := by
  unfold tagFault?
  cases hfind : names.find? (!isTagName ·) with
  | none =>
    left
    refine ⟨rfl, fun n hn => ?_⟩
    simpa using List.find?_eq_none.1 hfind n hn
  | some n =>
    right
    refine ⟨n, List.mem_of_find?_eq_some hfind, ?_, rfl⟩
    simpa using List.find?_some hfind

theorem isTagName_of_tagFault? {key : String} {names : List Text} (h : tagFault? key names = none)
    {n : Text} (hn : n ∈ names) : isTagName n = true := by
  rcases tagFault?_cases key names with ⟨-, hall⟩ | ⟨_, -, -, hsome⟩
  · exact hall n hn
  · rw [h] at hsome
    cases hsome

variable {c : Config} {n : Text}

theorem mem_taxonomy_of_block (hn : n ∈ c.extraStartTags ∨ n ∈ c.verbatimTags) :
    n ∈ c.taxonomy.start ∧ n ∈ c.taxonomy.finish := by
  rcases hn with hn | hn
  · simp [taxonomy, Taxonomy.setVerbatim, Taxonomy.addMiddles, Taxonomy.addBlocks, hn]
  · simp [taxonomy, Taxonomy.setVerbatim, Taxonomy.addMiddles, Taxonomy.addBlocks, hn]

/-- A name that also opens blocks is an opening tag. -/
theorem classify_of_middle (hn : n ∈ c.extraMiddleTags) :
    c.taxonomy.classify n false = some (if n ∈ c.taxonomy.start then .start else .middle) := by
  have hmiddle : n ∈ c.taxonomy.middle := by
    simp [taxonomy, Taxonomy.setVerbatim, Taxonomy.addMiddles, Taxonomy.addBlocks, hn]
  -- a start name is looked up first
  by_cases hstart : n ∈ c.taxonomy.start
  · simp [Taxonomy.classify, hstart]
  · simp [Taxonomy.classify, hstart, hmiddle]

open TagShape Token

/-- Settings and tags have the same names. The test on names accepts the identifiers; it accepts a
name exactly if the name, added to the taxonomy as a block, is recognised in each form of its tags,
and exactly if there is any line at all from which a tag of this name is read. So a list of names in
settings is passed if all of them can be read, and refused for one that never is; and under settings
whose lists of names are passed every name they hold is recognised. -/
theorem tagNames_agree :
    (∀ n, isTagName n = true ↔ IsIdentifier n) ∧
    (∀ n, isTagName n = true ↔ (Taxonomy.default.addBlocks [n]).Recognises n) ∧
    (∀ n, isTagName n = true ↔ Readable n) ∧
    (∀ key names, (tagFault? key names = none ∧ ∀ n ∈ names, Readable n) ∨
      ∃ n ∈ names, ¬ Readable n ∧ tagFault? key names =
        some (.invalidValue key ("'" ++ String.ofList n ++ "' is not a valid tag name"))) ∧
    ∀ c : Config, tagFault? "format.extra-start-tags" c.extraStartTags = none →
      tagFault? "format.extra-middle-tags" c.extraMiddleTags = none →
      tagFault? "format.verbatim-tags" c.verbatimTags = none →
      (∀ n, n ∈ c.extraStartTags ∨ n ∈ c.verbatimTags → c.taxonomy.Recognises n) ∧
      ∀ n ∈ c.extraMiddleTags, ∀ p ∈ delimiters,
        IsTag c.taxonomy (if n ∈ c.taxonomy.start then .start else .middle) n (bare p false n) := by
  refine ⟨isTagName_iff_isIdentifier, fun n => Taxonomy.recognises_addBlocks_iff.symm,
    fun n => readable_iff.symm, ?_, ?_⟩
  · intro key names
    rcases tagFault?_cases key names with ⟨hnone, hall⟩ | ⟨n, hn, hbad, hsome⟩
    · exact .inl ⟨hnone, fun n hn => readable_iff.2 (hall n hn)⟩
    · refine .inr ⟨n, hn, ?_, hsome⟩
      rw [readable_iff, hbad]
      decide
  · intro c hstarts hmiddles hverbatim
    constructor
    · intro n hn
      obtain ⟨hstart, hfinish⟩ := mem_taxonomy_of_block hn
      have hname : isTagName n = true :=
        hn.elim (isTagName_of_tagFault? hstarts) (isTagName_of_tagFault? hverbatim)
      exact Taxonomy.recognises_of_mem hname hstart hfinish
    · intro n hn p hp
      have hname := isTagName_of_tagFault? hmiddles hn
      exact isTag_bare hp hname (classify_of_middle hn)

/-- Settings that add a block with all kinds of characters in its name, and a middle name. -/
theorem tagNames_agree_added :
    let c : Config := { extraStartTags := ["_if2".toList], extraMiddleTags := ["case".toList] }
    c.taxonomy.Recognises "_if2".toList ∧
      scan c.taxonomy [] "\x7b\x7bcase\x7d\x7d".toList = [.tag .middle "case".toList ⟨0, 8⟩] := by
  intro c
  obtain ⟨-, -, -, -, hsettings⟩ := tagNames_agree
  obtain ⟨hblocks, hmiddles⟩ := hsettings c (by decide) (by decide) (by decide)
  refine ⟨hblocks _ (.inl List.mem_cons_self), ?_⟩
  exact hmiddles "case".toList List.mem_cons_self (['{', '{'], ['}', '}']) (by simp [delimiters])

end Config

end SmartyLayout
