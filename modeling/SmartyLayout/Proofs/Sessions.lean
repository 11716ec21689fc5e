import SmartyLayout.Proofs.Edits
import SmartyLayout.Server.Session

/-!
# SmartyLayout.Proofs.Sessions — runs of a session

A session keeps texts for an editor and hands out edits for them. Over every run, what it keeps can be
read off the actions it takes: the last one that tells something about a document decides. An editor
that makes the edits it is given in that text has the formatted text afterwards. All of this is about
actions; how messages are decoded enters only where a run of messages becomes a run of actions.

* `get?_act`: one action changes the text of the document it is about, and no other;
* `acted_spec`: what a run of actions leaves of the session;
* `serves_answerEdits`: when the answer to a request is right;
* `serves_acted`: requests at the end of any run of actions;
* `after_eq_acted`: a run of messages, whatever decodes them, is a run of actions;
* `serves_after`: requests at the end of any run of messages.
-/

namespace SmartyLayout

open Editor (Edit Selection Indentation)

namespace Formatter

/-- The document after it was formatted. One that cannot be formatted stays as it is. -/
def formattedDocument (f : Formatter) (t : Text) : Text :=
  match f.formatDocument t with
  | .ok formatted => formatted
  | .error _ => t

/-- The document after lines of it were formatted. -/
def formattedLines (f : Formatter) (r : LineRange) (t : Text) : Text :=
  match f.formatRange t r with
  | .ok e => Text.splice t e.span e.newText
  | .error _ => t

end Formatter

namespace Server

/-! ## Documents -/

namespace Documents

variable (ds : Documents) (uri uri' : Uri)

@[simp] theorem get?_erase :
    (ds.erase uri).get? uri' = if uri = uri' then none else ds.get? uri' := by
  unfold get? erase
  rw [List.find?_filter]
  split
  · next heq =>
    subst heq
    rw [Option.map_eq_none_iff, List.find?_eq_none]
    intro e he
    simp
  · next hne =>
    -- an entry for the other document is not erased
    congr 2
    funext e
    by_cases he : e.1 = uri' <;> simp [he, Ne.symm hne]

@[simp] theorem get?_put (t : Text) :
    (ds.put uri t).get? uri' = if uri = uri' then some t else ds.get? uri' := by
  by_cases heq : uri = uri'
  · simp [get?, put, heq]
  · have hrest : (ds.put uri t).get? uri' = (ds.erase uri).get? uri' := by
      simp [get?, put, heq]
    rw [hrest, get?_erase]
    simp [heq]

@[simp] theorem get?_change (texts : List Text) :
    (ds.change uri texts).get? uri' =
      if uri = uri' then texts.getLast?.or (ds.get? uri') else ds.get? uri' := by
  unfold change
  cases texts.getLast? <;> simp

end Documents

/-! ## Actions -/

/-- What an action tells about the text of a document: which one it is, that there is none, or
nothing. -/
def Action.tells (uri : Uri) : Action → Option (Option Text)
  | .keep u t => if u = uri then some (some t) else none
  | .change u texts => if u = uri then texts.getLast?.map some else none
  | .drop u => if u = uri then some none else none
  | .announce | .format .. | .formatSelection .. => none

/-- The text of a document by the last action that tells something about it. -/
def latest (uri : Uri) (as : List Action) : Option Text :=
  (as.filterMap (Action.tells uri)).getLast?.join

namespace Session

theorem session_answerEdits (s : Session) (uri : Uri) (edits : Text → List Edit × List Notice) :
    (s.answerEdits uri edits).session = s := by
  unfold answerEdits
  split <;> rfl

section Actions

variable [External.Launcher] (s : Session) (printer : Printer)

/-- Actions are about documents only. -/
theorem session_act (a : Action) :
    (s.act printer a).session =
      { s with documents := (s.act printer a).session.documents } := by
  cases a <;> simp [act, session_answerEdits]

/-- An action changes the text of the document it tells something about. -/
theorem get?_act (a : Action) (uri : Uri) :
    (s.act printer a).session.documents.get? uri =
      (a.tells uri).getD (s.documents.get? uri) := by
  cases a with
  | announce => rfl
  | keep u t =>
    simp only [act, Action.tells, Documents.get?_put]
    split <;> rfl
  | change u texts =>
    simp only [act, Action.tells, Documents.get?_change]
    split
    · cases texts.getLast? <;> rfl
    · rfl
  | drop u =>
    simp only [act, Action.tells, Documents.get?_erase]
    split <;> rfl
  | format u i => simp [act, Action.tells, session_answerEdits]
  | formatSelection u selection i => simp [act, Action.tells, session_answerEdits]

/-- What actions leave of a session. -/
def acted (as : List Action) : Session :=
  as.foldl (fun s a => (s.act printer a).session) s

theorem acted_spec (as : List Action) :
    s.acted printer as = { s with documents := (s.acted printer as).documents } ∧
      ∀ uri, (s.acted printer as).documents.get? uri =
        (as.filterMap (Action.tells uri)).getLast?.getD (s.documents.get? uri) := by
  induction as generalizing s with
  | nil => exact ⟨rfl, fun uri => rfl⟩
  | cons a as ih =>
    obtain ⟨hlater, hgetLater⟩ := ih (s.act printer a).session
    have hacted : s.acted printer (a :: as) = (s.act printer a).session.acted printer as := rfl
    rw [hacted]
    constructor
    · rw [hlater, session_act]
    · intro uri
      rw [hgetLater uri, get?_act]
      -- what later actions tell comes before what this one tells
      cases htells : a.tells uri with
      | none => rw [List.filterMap_cons_none htells, Option.getD_none]
      | some told =>
        rw [List.filterMap_cons_some htells, List.getLast?_cons]
        rfl

end Actions

end Session

/-! ## Requests -/

/-- The answer to a request about a document whose text is `kept`: nothing if there is no text, and
otherwise at most one edit, by which an editor gets `goal t` from the text `t`. -/
structure Reply.Serves (reply : Reply) (kept : Option Text) (goal : Text → Text) : Prop where
  nothing_iff : reply = .answer .nothing ↔ kept = none
  exists_edits : ∀ t, kept = some t → ∃ es, reply = .answer (.edits es) ∧ es.length ≤ 1 ∧
    (t.Countable → Edit.applyAll es t = goal t)

theorem documentEdits_spec (f : Formatter) (t : Text) :
    (documentEdits f t).1.length ≤ 1 ∧
      (t.Countable → Edit.applyAll (documentEdits f t).1 t = f.formattedDocument t) := by
  unfold documentEdits Formatter.formattedDocument
  cases f.formatDocument t with
  | error fault => exact ⟨Nat.zero_le 1, fun _ => rfl⟩
  | ok formatted =>
    dsimp only
    split
    · next heq => exact ⟨Nat.zero_le 1, fun _ => heq.symm⟩
    · exact ⟨Nat.le_refl 1, fun ht => Edit.apply_whole ht formatted⟩

theorem selectionEdits_spec (f : Formatter) (t : Text) (sel : Selection) :
    (selectionEdits f t sel).1.length ≤ 1 ∧
      (t.Countable →
        Edit.applyAll (selectionEdits f t sel).1 t = f.formattedLines sel.lines t) := by
  unfold selectionEdits Formatter.formattedLines
  cases hformat : f.formatRange t sel.lines with
  | error fault => exact ⟨Nat.zero_le 1, fun _ => rfl⟩
  | ok e =>
    have hcut (ht : t.Countable) := Formatter.exists_cut_of_formatRange hformat
      (Nat.lt_trans ht.1 (by decide))
    obtain ⟨span, new⟩ := e
    dsimp only at hcut ⊢
    split
    · next heq =>
      -- the lines are put back where they were taken from
      refine ⟨Nat.zero_le 1, fun ht => ?_⟩
      obtain ⟨before, part, after, rfl, rfl⟩ := hcut ht
      rw [← heq, Text.slice_append, Text.splice_append]
      rfl
    · refine ⟨Nat.le_refl 1, fun ht => ?_⟩
      obtain ⟨before, part, after, rfl, rfl⟩ := hcut ht
      rw [Text.splice_append]
      exact Edit.apply_ofRange ht new

namespace Session

theorem serves_answerEdits (s : Session) (uri : Uri) {edits : Text → List Edit × List Notice}
    {goal : Text → Text}
    (hspec : ∀ t, (edits t).1.length ≤ 1 ∧
      (t.Countable → Edit.applyAll (edits t).1 t = goal t)) :
    (s.answerEdits uri edits).reply.Serves (s.documents.get? uri) goal := by
  unfold answerEdits
  cases s.documents.get? uri with
  | none => exact ⟨by simp, by simp⟩
  | some t =>
    refine ⟨by simp, ?_⟩
    intro t' ht'
    cases ht'
    exact ⟨(edits t).1, rfl, hspec t⟩

section Runs

variable [External.Launcher] (printer : Printer) {s : Session}

/-- A session that begins without documents keeps for every document the text that was told last.
Requests change nothing, and an editor that makes the edits it gets in that text has the document, or
the selected lines of it, formatted under its own indentation and the session's settings. -/
theorem serves_acted (hnew : s.documents = {}) (as : List Action) :
    let now := s.acted printer as
    let formatter (i : Indentation) := s.config.formatterWith printer (i.apply s.config.options)
    (∀ uri, now.documents.get? uri = latest uri as) ∧
      (∀ uri i, (now.act printer (.format uri i)).session = now ∧
        (now.act printer (.format uri i)).reply.Serves (latest uri as)
          (formatter i).formattedDocument) ∧
      ∀ uri sel i, (now.act printer (.formatSelection uri sel i)).session = now ∧
        (now.act printer (.formatSelection uri sel i)).reply.Serves (latest uri as)
          ((formatter i).formattedLines sel.lines) := by
  intro now formatter
  obtain ⟨hnow, hget⟩ := s.acted_spec printer as
  have hformatter (i : Indentation) : now.formatter printer i = formatter i := by
    show (s.acted printer as).formatter printer i = _
    rw [hnow]
    rfl
  have hlatest (uri : Uri) : now.documents.get? uri = latest uri as := by
    rw [hget uri, hnew, latest]
    cases (as.filterMap (Action.tells uri)).getLast? <;> rfl
  refine ⟨hlatest, ?_, ?_⟩
  · intro uri i
    rw [← hlatest uri, ← hformatter i]
    exact ⟨session_answerEdits _ uri _, serves_answerEdits now uri (documentEdits_spec _)⟩
  · intro uri sel i
    rw [← hlatest uri, ← hformatter i]
    exact ⟨session_answerEdits _ uri _,
      serves_answerEdits now uri fun t => selectionEdits_spec _ t sel⟩

/-! ## Messages -/

/-- What messages leave of a session. -/
def after (s : Session) (printer : Printer) (w : Workspace) (ms : List Message) : Session :=
  ms.foldl (fun s m => (s.step printer w m).session) s

/-- A running session handles the message as the action that `decode` makes of it. -/
structure Obeys (w : Workspace) (decode : Message → Option Action) (m : Message) : Prop where
  act : ∀ {s : Session} {a : Action}, s.phase = .running → decode m = some a →
    s.step printer w m = s.act printer a
  pass : ∀ {s : Session}, s.phase = .running → decode m = none →
    (s.step printer w m).session = s

/-- A run of messages is the run of the actions that are made of them. -/
theorem after_eq_acted {w : Workspace} {decode : Message → Option Action}
    (hrun : s.phase = .running) {ms : List Message} (hms : ∀ m ∈ ms, Obeys printer w decode m) :
    s.after printer w ms = s.acted printer (ms.filterMap decode) := by
  induction ms generalizing s with
  | nil => rfl
  | cons m ms ih =>
    have hm := hms m List.mem_cons_self
    have hrest := fun n hn => hms n (List.mem_cons_of_mem m hn)
    have hafter : s.after printer w (m :: ms) =
        (s.step printer w m).session.after printer w ms := rfl
    cases hdecode : decode m with
    | none => rw [hafter, hm.pass hrun hdecode, List.filterMap_cons_none hdecode, ih hrun hrest]
    | some a =>
      -- an action leaves the session running
      have hrun' : (s.act printer a).session.phase = .running := by
        rw [session_act]
        exact hrun
      rw [hafter, hm.act hrun hdecode, List.filterMap_cons_some hdecode, ih hrun' hrest]
      rfl

end Runs

end Session

/-- What a message asks a running session to do, if there is such a thing. -/
def Message.action? (m : Message) : Option Action :=
  if m.isRequest then (request (String.ofList m.method) m.params).toOption
  else m.params.bind (notification? (String.ofList m.method))

/-- The message does not end the session. -/
def Message.Continues (m : Message) : Prop :=
  String.ofList m.method ≠ "shutdown" ∧ String.ofList m.method ≠ "exit"

instance (m : Message) : Decidable m.Continues :=
  inferInstanceAs (Decidable (_ ∧ _))

/-- The methods of messages without an answer that ask for an action. -/
def noticeMethods : List String :=
  ["initialized", "textDocument/didOpen", "textDocument/didChange", "textDocument/didClose"]

/-- The methods of requests that ask for an action. -/
def requestMethods : List String :=
  ["textDocument/formatting", "textDocument/rangeFormatting"]

theorem mem_of_notification? {method : String} {d : Data} {a : Action}
    (h : notification? method d = some a) : method ∈ noticeMethods := by
  by_contra hother
  simp only [noticeMethods, List.mem_cons, List.not_mem_nil, or_false, not_or] at hother
  obtain ⟨hgreeting, hopen, hchange, hclose⟩ := hother
  rw [notification?, if_neg hgreeting, if_neg hopen, if_neg hchange, if_neg hclose] at h
  cases h

theorem mem_of_request {method : String} {params : Option Data} {a : Action}
    (h : request method params = .ok a) : method ∈ requestMethods := by
  by_contra hother
  simp only [requestMethods, List.mem_cons, List.not_mem_nil, or_false, not_or] at hother
  obtain ⟨hformat, hselection⟩ := hother
  simp only [request, if_neg hformat, if_neg hselection] at h
  cases hfind : unserved.find? (·.1 == method) with
  | none => simp [hfind] at h
  | some entry => simp [hfind] at h

namespace Session

section Messages

variable [External.Launcher] {printer : Printer} {w : Workspace} {s : Session} {m : Message}

/-- The methods that ask for an action are known, and have nothing to do with phases. -/
theorem step_eq_serve (hrun : s.phase = .running)
    (hmethod : String.ofList m.method ∈ noticeMethods ++ requestMethods) :
    s.step printer w m = s.serve printer m := by
  have hserved : ∀ method ∈ noticeMethods ++ requestMethods, isServed method = true ∧
      method ∉ ["initialize", "shutdown", "exit", "$/cancelRequest"] := by
    simp [noticeMethods, requestMethods, isServed, notifications]
  obtain ⟨hknown, hplain⟩ := hserved _ hmethod
  simp only [List.mem_cons, List.not_mem_nil, or_false, not_or] at hplain
  obtain ⟨hbegin, hshutdown, hexit, hcancel⟩ := hplain
  simp [step, hrun, hknown, hbegin, hshutdown, hexit, hcancel, Phase.refusal?]

/-- A running session takes the action of a message. -/
theorem step_of_action? {a : Action} (hrun : s.phase = .running) (h : m.action? = some a) :
    s.step printer w m = s.act printer a := by
  unfold Message.action? at h
  cases hrequest : m.isRequest with
  | true =>
    rw [if_pos hrequest] at h
    have hok : request (String.ofList m.method) m.params = .ok a := by
      cases hanswer : request (String.ofList m.method) m.params with
      | error r => simp [hanswer, Except.toOption] at h
      | ok b => simpa [hanswer, Except.toOption] using h
    have hmethod := mem_of_request hok
    have hother : ∀ method ∈ requestMethods, method ∉ notifications := by
      simp [requestMethods, notifications]
    rw [step_eq_serve hrun (List.mem_append_right _ hmethod)]
    simp [serve, hother _ hmethod, hrequest, hok]
  | false =>
    rw [hrequest, if_neg Bool.false_ne_true] at h
    obtain ⟨d, -, hnote⟩ := Option.bind_eq_some_iff.1 h
    have hmethod := mem_of_notification? hnote
    have hlisted : ∀ method ∈ noticeMethods, method ∈ notifications := by
      simp [noticeMethods, notifications]
    rw [step_eq_serve hrun (List.mem_append_left _ hmethod)]
    simp [serve, hlisted _ hmethod, hrequest, h]

/-- A message that asks for nothing, and does not end the session, leaves it as it is. -/
theorem step_of_action?_eq_none (hrun : s.phase = .running) (hm : m.Continues)
    (h : m.action? = none) : (s.step printer w m).session = s := by
  have hserve : (s.serve printer m).session = s := by
    unfold serve
    dsimp only
    split
    · -- a method of messages without an answer
      split
      · rfl
      · next hreq =>
        rw [Message.action?, if_neg hreq] at h
        rw [h]
    · -- a method of requests
      split
      · rfl
      · next hreq =>
        have hreq' : m.isRequest = true := by simpa using hreq
        rw [Message.action?, if_pos hreq'] at h
        cases hr : request (String.ofList m.method) m.params with
        | ok a => simp [hr, Except.toOption] at h
        | error r => rfl
  unfold step
  dsimp only
  rw [if_neg (by simp [hrun]), if_neg hm.1, if_neg hm.2]
  split
  · -- a session begins once
    unfold Session.initialize
    rw [if_pos (by simp [hrun])]
  · split
    · -- there is nothing to be cancelled
      rfl
    · split
      · unfold unknown
        split <;> rfl
      · rw [hrun]
        exact hserve

end Messages

/-- Runs of a session that begins without documents, whatever messages it is sent, as long as they do
not end it: it keeps for every document the text that was told last, a request changes nothing, and an
editor that makes the edits it gets in that text has the document, or the selected lines of it,
formatted under its own indentation and the session's settings. -/
theorem serves_after [External.Launcher] (printer : Printer) (w : Workspace) {s : Session}
    (hrun : s.phase = .running) (hnew : s.documents = {}) {ms : List Message}
    (hms : ∀ m ∈ ms, m.Continues) :
    let now := s.after printer w ms
    let told := ms.filterMap Message.action?
    let formatter (i : Indentation) := s.config.formatterWith printer (i.apply s.config.options)
    (∀ uri, now.documents.get? uri = latest uri told) ∧
      (∀ m uri i, m.action? = some (.format uri i) →
        (now.step printer w m).session = now ∧
          (now.step printer w m).reply.Serves (latest uri told) (formatter i).formattedDocument) ∧
      ∀ m uri sel i, m.action? = some (.formatSelection uri sel i) →
        (now.step printer w m).session = now ∧
          (now.step printer w m).reply.Serves (latest uri told)
            ((formatter i).formattedLines sel.lines) := by
  intro now told formatter
  have hobeys (m : Message) (hm : m ∈ ms) : Obeys printer w Message.action? m :=
    ⟨step_of_action?, fun hrun => step_of_action?_eq_none hrun (hms m hm)⟩
  have hnow : now = s.acted printer told := after_eq_acted printer hrun hobeys
  have hrun' : now.phase = .running := by
    rw [hnow, (s.acted_spec printer told).1]
    exact hrun
  obtain ⟨hget, hwhole, hlines⟩ := serves_acted printer hnew told
  rw [← hnow] at hget hwhole hlines
  refine ⟨hget, ?_, ?_⟩
  · intro m uri i hm
    rw [step_of_action? hrun' hm]
    exact hwhole uri i
  · intro m uri sel i hm
    rw [step_of_action? hrun' hm]
    exact hlines uri sel i

/-- A document is opened and changed twice; then all of it and its first two lines are formatted. -/
theorem serves_after_changed :
    let _ : External.Launcher := ⟨fun _ _ _ => .refused "no such program"⟩
    let a : Uri := ⟨"file".toList, some {}, "/a".toList, none, none⟩
    let name : Data := .text "file:///a".toList
    let t : Text := "é😀\n\x7bif $a\x7d\x7bblock b\x7d\nx\n\x7b/block\x7d\x7b/if\x7d".toList
    let opened : Message := ⟨"textDocument/didOpen".toList, false,
      some (.list [.list [name, .text [], .int 1, .text "x".toList]])⟩
    let changed : Message := ⟨"textDocument/didChange".toList, false,
      some (.list [.list [name, .int 2],
        .list [.list [.null, .null, .text []], .list [.null, .null, .text t]]])⟩
    let options : Data :=
      .table [("tabSize".toList, .int 2), ("insertSpaces".toList, .bool true)]
    let place (line character : Int) : Data := .list [.int line, .int character]
    let whole : Message := ⟨"textDocument/formatting".toList, true,
      some (.table [("textDocument".toList, .list [name]), ("options".toList, options)])⟩
    let part : Message := ⟨"textDocument/rangeFormatting".toList, true,
      some (.table [("textDocument".toList, .list [name]), ("options".toList, options),
        ("range".toList, .list [place 0 3, place 2 0])])⟩
    let w : Workspace := ⟨{}, [], [], []⟩
    let now := after { phase := .running } Printer.echo w [opened, changed]
    (∀ m ∈ [opened, changed], m.Continues) ∧ now.documents.get? a = some t ∧
      (∃ es, (now.step Printer.echo w whole).reply = .answer (.edits es) ∧ Edit.applyAll es t =
        "é😀\n\x7bif $a\x7d\n  \x7bblock b\x7d\n    x\n  \x7b/block\x7d\n\x7b/if\x7d".toList) ∧
      ∃ es, (now.step Printer.echo w part).reply = .answer (.edits es) ∧ Edit.applyAll es t =
        "é😀\n\x7bif $a\x7d\n  \x7bblock b\x7d\nx\n\x7b/block\x7d\x7b/if\x7d".toList := by
  intro launcher a name t opened changed options place whole part w now
  have hms : ∀ m ∈ [opened, changed], m.Continues := by decide
  have hlatest : latest a ([opened, changed].filterMap Message.action?) = some t := by
    decide +kernel
  obtain ⟨hget, hwhole, hpart⟩ :=
    serves_after Printer.echo w (s := { phase := .running }) rfl rfl hms
  have hcount : t.Countable := by decide
  refine ⟨hms, (hget a).trans hlatest, ?_, ?_⟩
  · obtain ⟨-, hserves⟩ := hwhole whole a ⟨2, true⟩ (by decide +kernel)
    obtain ⟨es, hreply, -, happly⟩ := hserves.exists_edits t hlatest
    exact ⟨es, hreply, (happly hcount).trans (by decide +kernel)⟩
  · obtain ⟨-, hserves⟩ := hpart part a ⟨⟨0, 3⟩, ⟨2, 0⟩⟩ ⟨2, true⟩ (by decide +kernel)
    obtain ⟨es, hreply, -, happly⟩ := hserves.exists_edits t hlatest
    exact ⟨es, hreply, (happly hcount).trans (by decide +kernel)⟩

end Session

end Server

end SmartyLayout
