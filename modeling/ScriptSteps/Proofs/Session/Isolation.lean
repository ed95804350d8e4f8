import Mathlib
import ScriptSteps.Proofs.Text.Trimmed
import ScriptSteps.Session

/-!
# What one entry of a session means for the next

All that a session remembers of an entry is the format that it chose, if it chose one. So the reply
to an entry depends on the entries before it only through the last of them that chose a format, and
an entry that fails could as well not have been there.

## Main definitions

* `Session.chosenFormat?`, `Session.formatAfter`: the format that an entry and a row of them choose
* `Session.Entry.Fails`: the entries that are complained about
* `Session.replies`: what a session does with entries in a row

## Main statements

* `Session.exists_answer_eq`: what is left of an entry
* `Session.Entry.fails_iff`: an entry fails if and only if the reply complains
* `Session.replies_isolated`: a reply depends on its entry and the format chosen last
* `Session.converse_eq_replies`: a session on lines of input replies to the entries they complete
-/

namespace ScriptSteps.Session

/-! ## Entries -/

/-- An entry, with the files there are when it is answered. -/
structure Entry where
  text : String
  files : FileTree

/-- The format that an entry chooses, if it is a format command with a format after it. -/
def chosenFormat? (text : String) : Option OutputFormat :=
  match Command.parse? text with
  | some (.format, some word) => (OutputFormat.parse word).toOption
  | _ => none

/-- The file that an entry names, if it is a load command with a file after it. -/
def loadedPath? (text : String) : Option String :=
  match Command.parse? text with
  | some (.load, some path) => some path
  | _ => none

/-- Whether an entry is the command that ends a session. -/
def asksForExit (text : String) : Bool :=
  match Command.parse? text with
  | some (.exit, _) => true
  | _ => false

/-- What is put out for an entry that asks for no command. -/
def remark (p : Printer) (text : String) : List Output :=
  if text = "" then []
  else if !isCommand text then p.analysis text
  else [complaint ("unknown command " ++ colored .cyan text)]

/-- The entries that fail. -/
inductive Entry.Fails (e : Entry) : Prop
  /-- A text that cannot be parsed, or has a part without a step. -/
  | program {cause : Error} (hne : Text.trim e.text ≠ "")
      (htext : isCommand (Text.trim e.text) = false)
      (hcause : analyze (Text.trim e.text) = .error cause)
  /-- A command with an unknown name. -/
  | command (hdot : isCommand (Text.trim e.text) = true) (hparse : Command.parse? e.text = none)
  /-- A word that names no format. -/
  | format {word reason : String} (hparse : Command.parse? e.text = some (.format, some word))
      (hword : OutputFormat.parse word = .error reason)
  /-- A load command without a file. -/
  | noPath (hparse : Command.parse? e.text = some (.load, none))
  /-- A file that cannot be read, or whose text cannot be analyzed. -/
  | file {path : String} {cause : Error} (hparse : Command.parse? e.text = some (.load, some path))
      (hcause : analyzeFile e.files path = .error cause)

section Answer

variable {files : FileTree} {p : Printer} {text : String}

theorem isCommand_of_parse? {command : Command × Option String}
    (h : Command.parse? text = some command) : isCommand (Text.trim text) = true := by
  unfold Command.parse? at h
  split at h
  · next rest hrest => simp [isCommand, hrest]
  · cases h

theorem parse?_eq_none (h : isCommand (Text.trim text) = false) :
    Command.parse? text = none := by
  rw [Option.eq_none_iff_forall_ne_some]
  intro command hparse
  simp [isCommand_of_parse? hparse] at h

theorem trim_ne_empty (h : isCommand (Text.trim text) = true) : Text.trim text ≠ "" := by
  intro hempty
  simp [hempty, isCommand] at h

/-- An entry is a command that is carried out, or something is put out and nothing changes. -/
theorem answer_eq (files : FileTree) (p : Printer) (text : String) :
    answer files p text =
      match Command.parse? text with
      | some (command, argument?) => execute files p command argument?
      | none => .say p (remark p (Text.trim text)) := by
  have htrim : Command.parse? (Text.trim text) = Command.parse? text := by
    unfold Command.parse?
    rw [Text.trim_trim]
  cases hparse : Command.parse? text with
  | none =>
    simp only [answer, remark, htrim, hparse]
    split_ifs <;> rfl
  | some command =>
    have hdot := isCommand_of_parse? hparse
    have hne := trim_ne_empty hdot
    simp [answer, hne, hdot, htrim, hparse]

/-- The format is that which the entry chose, or stays as it was, and only the command for it ends a
session. -/
theorem exists_answer_eq (files : FileTree) (p : Printer) (text : String) :
    ∃ outputs, answer files p text
      = ⟨outputs, { p with format := (chosenFormat? text).getD p.format }, asksForExit text⟩ := by
  rw [answer_eq]
  unfold chosenFormat? asksForExit
  rcases Command.parse? text with _ | ⟨command, _ | word⟩
  · exact ⟨_, rfl⟩
  · cases command <;> exact ⟨_, rfl⟩
  · cases command with
    | format =>
      simp only [execute]
      cases OutputFormat.parse word <;> exact ⟨_, rfl⟩
    | _ => exact ⟨_, rfl⟩

theorem answer_printer (files : FileTree) (p : Printer) (text : String) :
    (answer files p text).printer = { p with format := (chosenFormat? text).getD p.format } := by
  obtain ⟨outputs, hanswer⟩ := exists_answer_eq files p text
  rw [hanswer]

theorem answer_ends (files : FileTree) (p : Printer) (text : String) :
    (answer files p text).ends = asksForExit text := by
  obtain ⟨outputs, hanswer⟩ := exists_answer_eq files p text
  rw [hanswer]

/-- Of all files, a reply depends on none but the one that the entry names. -/
theorem answer_congr {files' : FileTree}
    (h : ∀ path, loadedPath? text = some path → files.read path = files'.read path)
    (p : Printer) : answer files p text = answer files' p text := by
  rw [answer_eq, answer_eq]
  rcases hparse : Command.parse? text with _ | ⟨command, argument?⟩
  · rfl
  · cases command with
    | load =>
      cases argument? with
      | none => rfl
      | some path =>
        have hpath : loadedPath? text = some path := by
          unfold loadedPath?
          rw [hparse]
        have hread := h path hpath
        simp only [execute, load, hread]
    | _ => cases argument? <;> rfl

end Answer

/-! ## Complaints -/

/-- Whether something put out is a complaint. -/
def Complains (outputs : List Output) : Prop := ∃ text, .complain text ∈ outputs

theorem not_complains_nil : ¬Complains [] := by simp [Complains]

theorem complains_result {p : Printer} {result : Except Error Model} :
    Complains [p.result result] ↔ ∃ cause, result = .error cause := by
  cases result <;> simp [Complains, Printer.result, Output.printLine, Output.complainLine]

theorem complains_analysis {p : Printer} {source : String} :
    Complains (p.analysis source) ↔ ∃ cause, analyze source = .error cause := by
  rw [← complains_result (p := p)]
  simp [Complains, Printer.analysis]

theorem complains_load {files : FileTree} {p : Printer} {path : String} :
    Complains (load files p path) ↔ ∃ cause, analyzeFile files path = .error cause := by
  unfold load analyzeFile
  cases files.read path with
  | ok source => exact complains_analysis
  | error fault => exact complains_result

theorem complains_complaint (reason : String) : Complains [complaint reason] :=
  ⟨_, List.mem_singleton.2 rfl⟩

theorem not_complains_help : ¬Complains help := by
  simp [Complains, help, helpHead, helpEntry, textLine, Output.printLine]

/-- An entry fails if and only if the reply complains about it. -/
theorem Entry.fails_iff (e : Entry) (p : Printer) :
    e.Fails ↔ Complains (answer e.files p e.text).outputs := by
  rw [answer_eq]
  constructor
  · rintro (⟨hne, htext, hcause⟩ | ⟨hdot, hparse⟩ | ⟨hparse, hword⟩ | hparse | ⟨hparse, hcause⟩)
    · have hparse := parse?_eq_none htext
      simpa [hparse, Reply.say, remark, hne, htext] using complains_analysis.2 ⟨_, hcause⟩
    · have hne := trim_ne_empty hdot
      simpa [hparse, Reply.say, remark, hne, hdot] using complains_complaint _
    · simpa [hparse, execute, hword, Reply.say] using complains_complaint _
    · simpa [hparse, execute, Reply.say] using complains_complaint _
    · simpa [hparse, execute, Reply.say] using complains_load.2 ⟨_, hcause⟩
  · intro h
    rcases hparse : Command.parse? e.text with _ | ⟨command, argument?⟩
    · simp only [hparse, Reply.say, remark] at h
      split_ifs at h with hempty htext
      · exact absurd h not_complains_nil
      · obtain ⟨cause, hcause⟩ := complains_analysis.1 h
        exact .program hempty (by simpa using htext) hcause
      · exact .command (by simpa using htext) hparse
    · simp only [hparse] at h
      cases command with
      | help => exact absurd h not_complains_help
      | exit => exact absurd h not_complains_nil
      | clear => simp [execute, Reply.say, Complains] at h
      | format =>
        cases argument? with
        | none => simp [execute, Reply.say, Complains, Output.printLine] at h
        | some word =>
          cases hword : OutputFormat.parse word with
          | ok format => simp [execute, hword, Complains] at h
          | error reason => exact .format hparse hword
      | load =>
        cases argument? with
        | none => exact .noPath hparse
        | some path =>
          obtain ⟨cause, hcause⟩ := complains_load.1 h
          exact .file hparse hcause

/-- An entry that fails neither chooses a format nor ends the session. -/
theorem Entry.Fails.changes_nothing {e : Entry} (h : e.Fails) :
    chosenFormat? e.text = none ∧ asksForExit e.text = false := by
  unfold chosenFormat? asksForExit
  rcases h with ⟨-, htext, -⟩ | ⟨-, hparse⟩ | ⟨hparse, hword⟩ | hparse | ⟨hparse, -⟩
  · simp [parse?_eq_none htext]
  · simp [hparse]
  · simp [hparse, hword, Except.toOption]
  · simp [hparse]
  · simp [hparse]

/-! ## Entries in a row -/

/-- What a session does with entries in a row, up to one that ends it. -/
def replies (p : Printer) : List Entry → List Reply
  | [] => []
  | e :: es =>
    let reply := answer e.files p e.text
    if reply.ends then [reply] else reply :: replies reply.printer es

/-- The entries up to one that ends the session. -/
def untilExit : List Entry → List Entry
  | [] => []
  | e :: es => if asksForExit e.text then [e] else e :: untilExit es

/-- The format that is chosen last in entries in a row, or the one that is configured. -/
def formatAfter (configured : OutputFormat) (es : List Entry) : OutputFormat :=
  (es.filterMap fun e => chosenFormat? e.text).getLast?.getD configured

section Rows

variable {p : Printer} {configured : OutputFormat} {e : Entry} {es before after : List Entry}

theorem formatAfter_cons :
    formatAfter configured (e :: es)
      = formatAfter ((chosenFormat? e.text).getD configured) es := by
  unfold formatAfter
  cases hchosen : chosenFormat? e.text with
  | none => simp [hchosen]
  | some format => simp [hchosen, List.getLast?_cons]

theorem formatAfter_failing (h : e.Fails) :
    formatAfter configured (before ++ e :: after) = formatAfter configured (before ++ after) := by
  simp [formatAfter, h.changes_nothing.1]

/-- Each entry up to the end of the session is answered in the format chosen last before it. -/
theorem replies_eq_mapIdx :
    replies p es = (untilExit es).mapIdx fun i e =>
      answer e.files ⟨formatAfter p.format (es.take i), p.color⟩ e.text := by
  induction es generalizing p with
  | nil => rfl
  | cons e es ih =>
    rw [replies, untilExit, answer_ends]
    split
    · rfl
    · rw [List.mapIdx_cons, ih, answer_printer]
      simp only [List.take_succ_cons, formatAfter_cons]
      rfl

/-- A failing entry might as well not have been there. -/
theorem replies_failing (h : e.Fails) :
    replies p (before ++ after) = (replies p (before ++ e :: after)).eraseIdx before.length := by
  obtain ⟨hchosen, hstays⟩ := h.changes_nothing
  induction before generalizing p with
  | nil =>
    have hends : (answer e.files p e.text).ends = false := by rw [answer_ends, hstays]
    have hprinter : (answer e.files p e.text).printer = p := by
      rw [answer_printer, hchosen]
      rfl
    simp [replies, hends, hprinter]
  | cons first before ih =>
    simp only [List.cons_append, replies]
    split
    · rfl
    · rw [List.length_cons, List.eraseIdx_cons_succ, ih]

end Rows

/-- The reply to an entry is that of a session of its own in the format chosen last before it. It
depends on no file but the one that the entry names. Neither the format nor any other reply changes
when an entry that fails is left out. -/
theorem replies_isolated (p : Printer) (es : List Entry) :
    replies p es = (untilExit es).mapIdx (fun i e =>
        answer e.files ⟨formatAfter p.format (es.take i), p.color⟩ e.text)
      ∧ (∀ (q : Printer) (text : String) (files files' : FileTree),
        (∀ path, loadedPath? text = some path → files.read path = files'.read path) →
          answer files q text = answer files' q text)
      ∧ ∀ before e after, es = before ++ e :: after → e.Fails →
        (∀ later, formatAfter p.format (before ++ e :: later)
          = formatAfter p.format (before ++ later))
        ∧ replies p (before ++ after) = (replies p es).eraseIdx before.length := by
  refine ⟨replies_eq_mapIdx, fun q text files files' h => answer_congr h q, ?_⟩
  rintro before e after rfl he
  exact ⟨fun later => formatAfter_failing he, replies_failing he⟩

/-- A format is chosen, a word that names none is not, and of two files one is loaded. -/
theorem replies_isolated_formats :
    let files : FileTree := ⟨[(["x"], ⟨#[]⟩)], []⟩
    let more : FileTree := ⟨[(["x"], ⟨#[]⟩), (["y"], ⟨#[]⟩)], []⟩
    let first : Entry := ⟨" .F  JSON ", files⟩
    let failing : Entry := ⟨".format xml", files⟩
    let last : Entry := ⟨".load x", files⟩
    let p : Printer := ⟨.table, false⟩
    replies p [first, failing, last]
        = [answer files ⟨.table, false⟩ first.text, answer files ⟨.json, false⟩ failing.text,
          answer files ⟨.json, false⟩ last.text]
      ∧ answer files ⟨.json, false⟩ last.text = answer more ⟨.json, false⟩ last.text
      ∧ failing.Fails
      ∧ replies p [first, last] = (replies p [first, failing, last]).eraseIdx 1 := by
  intro files more first failing last p
  obtain ⟨hreplies, hfiles, hfailing⟩ := replies_isolated p [first, failing, last]
  have hparse : Command.parse? failing.text = some (.format, some "xml") := by decide +kernel
  have hword : OutputFormat.parse "xml"
      = .error "unknown format 'xml', expected table or json" := by decide +kernel
  have hfails : failing.Fails := .format hparse hword
  refine ⟨?_, ?_, hfails, (hfailing [first] failing [last] rfl hfails).2⟩
  · have hchosen : chosenFormat? " .F  JSON " = some .json := by decide +kernel
    have hstays : asksForExit " .F  JSON " = false := by decide +kernel
    have hends : asksForExit ".load x" = false := by decide +kernel
    have hnothing : chosenFormat? ".format xml" = none ∧ asksForExit ".format xml" = false :=
      hfails.changes_nothing
    rw [hreplies]
    simp [untilExit, formatAfter, hchosen, hstays, hends, hnothing, p, first, failing, last]
  · apply hfiles
    intro path hpath
    obtain rfl : "x" = path := by
      have hloaded : loadedPath? ".load x" = some "x" := by decide +kernel
      exact Option.some.inj (hloaded.symm.trans hpath)
    decide +kernel

/-! ## Lines of input -/

/-- The entries that lines complete after the pending lines of one, and what a session does at the
end of the lines if no entry ended it. -/
def completed (pending : String) : List (List UInt8) → List String × (List Output × Ending)
  | [] => ([], [.printLine (Style.dimmed.paint "^D")], .finished)
  | bytes :: lines =>
    match String.fromUTF8? ⟨bytes.toArray⟩ with
    | none => ([], [], .notText)
    | some line =>
      let entry := applyBackspaces (pending ++ withoutLineEnd line)
      if isUnfinished entry then completed (entry ++ lineEnd line) lines
      else (entry :: (completed "" lines).1, (completed "" lines).2)

/-- What a session puts out with its replies, and then at the end of its input if none of them ended
it. -/
def conclude (rs : List Reply) (last : List Output × Ending) : List Output × Ending :=
  if rs.any (·.ends) then (rs.flatMap (·.outputs), .finished)
  else (rs.flatMap (·.outputs) ++ last.1, last.2)

theorem conclude_cons {reply : Reply} (h : reply.ends = false) (rs : List Reply)
    (last : List Output × Ending) :
    conclude (reply :: rs) last
      = (reply.outputs ++ (conclude rs last).1, (conclude rs last).2) := by
  simp only [conclude, List.any_cons, h, Bool.false_or, List.flatMap_cons]
  split <;> simp

/-- A session on lines of input replies to the entries that they complete. -/
theorem converse_eq_replies (files : FileTree) (p : Printer) (pending : String)
    (lines : List (List UInt8)) :
    converse files p pending lines =
      conclude (replies p ((completed pending lines).1.map (⟨·, files⟩)))
        (completed pending lines).2 := by
  induction lines generalizing p pending with
  | nil => rfl
  | cons bytes lines ih =>
    rw [converse, completed]
    cases String.fromUTF8? ⟨bytes.toArray⟩ with
    | none => rfl
    | some line =>
      simp only
      split_ifs with hunfinished hends
      · exact ih ..
      · simp [replies, hends, conclude]
      · rw [ih, List.map_cons, replies, if_neg hends, conclude_cons (by simpa using hends)]

end ScriptSteps.Session
