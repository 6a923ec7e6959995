import Mathlib
import CacheKeys.CommandLine.Program
import CacheKeys.Proofs.Decimal.Numerals
import CacheKeys.Proofs.Document.Configuration

/-! # Output for programs

Where the reader is a program, all messages but lines and documents are left out
(`Mode.render_of_isSilent`).  So what a command leaves on the output depends on the branch that it
takes for programs.  There each command either tells one document, which can be read, and fails only
because of warnings, or it tells nothing, and that it does without a failure only if it has no
answer to give (`Report.IsOrderly`, `isOrderly_run`).  The output for a program is then empty or one
document (`output_is_one_document`). -/

namespace CacheKeys

/-! ### Documents by name -/

namespace Document

theorem mem_insertField {f field : String × Document} : ∀ {fs : List (String × Document)},
    f ∈ insertField field fs ↔ f = field ∨ f ∈ fs
  | [] => by simp [insertField]
  | g :: fs => by
      unfold insertField
      split_ifs
      · rw [List.mem_cons]
      · rw [List.mem_cons, mem_insertField, List.mem_cons, or_left_comm]

open Json

mutual

theorem isReadable_byName : ∀ d : Document, IsReadable d → IsReadable d.byName
  | .list items, h => by
      rw [byName, isReadable_list_iff]
      exact isReadable_byNameAll items (isReadable_list_iff.1 h)
  | .table fields, h => by
      rw [byName, isReadable_table_iff]
      exact isReadable_fieldsByName fields (isReadable_table_iff.1 h)
  | .null, h => h
  | .bool _, h => h
  | .integer _, h => h
  | .decimal _, h => h
  | .text _, h => h
  | .unreadable, h => h

theorem isReadable_byNameAll : ∀ ds : List Document, (∀ d ∈ ds, IsReadable d) →
    ∀ d ∈ byNameAll ds, IsReadable d
  | [], h => h
  | d :: ds, h => by
      obtain ⟨hd, hds⟩ := List.forall_mem_cons.1 h
      exact List.forall_mem_cons.2 ⟨isReadable_byName d hd, isReadable_byNameAll ds hds⟩

theorem isReadable_fieldsByName : ∀ fs : List (String × Document),
    (∀ f ∈ fs, IsReadable f.2) → ∀ f ∈ fieldsByName fs, IsReadable f.2
  | [], h => h
  | (name, d) :: fs, h => by
      obtain ⟨hd, hfs⟩ := List.forall_mem_cons.1 h
      intro f hf
      rw [fieldsByName, mem_insertField] at hf
      rcases hf with rfl | hf
      · exact isReadable_byName d hd
      · exact isReadable_fieldsByName fs hfs f hf

end

end Document

namespace CommandLine

open Template

/-! ### Messages that programs do not see -/

/-- A message that is only for people. -/
def Message.IsSilent : Message → Prop
  | .line _ => False
  | .document _ => False
  | _ => True

theorem Mode.render_of_isSilent {m : Mode} (hm : m.json = true) :
    ∀ {message : Message}, message.IsSilent → m.render message = none
  | .info _, _ => if_pos hm
  | .success _, _ => if_pos hm
  | .warning _, _ => if_pos hm
  | .detail _, _ => if_pos (by rw [hm, Bool.or_true])
  | .heading _, _ => if_pos hm
  | .pair _ _, _ => if_pos hm
  | .item _, _ => if_pos hm
  | .row _, _ => if_pos hm

/-- Messages none of which programs see. -/
def AreSilent (ms : List Message) : Prop := ∀ message ∈ ms, message.IsSilent

theorem areSilent_nil : AreSilent [] := by simp [AreSilent]

theorem areSilent_singleton {message : Message} (h : message.IsSilent) : AreSilent [message] :=
  List.forall_mem_singleton.2 h

theorem textOn_append (m : Mode) (stream : Stream) (ms ms' : List Message) :
    m.textOn stream (ms ++ ms') = m.textOn stream ms ++ m.textOn stream ms' := by
  rw [Mode.textOn, List.filterMap_append, String.join_append]
  rfl

theorem textOn_of_areSilent {m : Mode} (hm : m.json = true) {ms : List Message}
    (h : AreSilent ms) (stream : Stream) : m.textOn stream ms = "" := by
  have hnone : ms.filterMap (m.lineOn stream) = [] := by
    refine List.filterMap_eq_nil_iff.2 fun message hmessage => ?_
    rw [Mode.lineOn, Mode.render_of_isSilent hm (h message hmessage)]
  rw [Mode.textOn, hnone]
  rfl

/-! ### Orderly reports -/

/-- Messages of which programs see one document, which can be read. -/
inductive AnswersOnce : List Message → Prop
  | intro {before after : List Message} {d : Document} (hbefore : AreSilent before)
      (hd : Json.IsReadable d) (hafter : AreSilent after) :
      AnswersOnce (before ++ .document d :: after)

theorem answersOnce_singleton {d : Document} (h : Json.IsReadable d) :
    AnswersOnce [.document d] :=
  .intro areSilent_nil h areSilent_nil

theorem AnswersOnce.append_left {ms ms' : List Message} (h : AnswersOnce ms')
    (hs : AreSilent ms) : AnswersOnce (ms ++ ms') := by
  obtain ⟨hbefore, hd, hafter⟩ := h
  rw [← List.append_assoc]
  exact .intro (List.forall_mem_append.2 ⟨hs, hbefore⟩) hd hafter

theorem AnswersOnce.append_right {ms ms' : List Message} (h : AnswersOnce ms)
    (hs : AreSilent ms') : AnswersOnce (ms ++ ms') := by
  obtain ⟨hbefore, hd, hafter⟩ := h
  rw [List.append_assoc]
  exact .intro hbefore hd (List.forall_mem_append.2 ⟨hafter, hs⟩)

/-- What an answer leaves on the output for programs. -/
theorem AnswersOnce.textOn_out {m : Mode} (hm : m.json = true) {ms : List Message}
    (h : AnswersOnce ms) :
    ∃ d, m.textOn .out ms = Json.pretty d ++ "\n" ∧ Json.IsReadable d := by
  obtain @⟨before, after, d, hbefore, hd, hafter⟩ := h
  have hone : m.textOn .out [.document d] = Json.pretty d ++ "\n" := String.empty_append
  refine ⟨d, ?_, hd⟩
  rw [← List.singleton_append, textOn_append, textOn_append, hone,
    textOn_of_areSilent hm hbefore, textOn_of_areSilent hm hafter, String.empty_append,
    String.append_empty]

/-- A report of which programs see one document, and which tells of no failure but warnings, or of
which they see nothing; the latter without a failure only where there need not be an answer. -/
inductive Report.IsOrderly (mayBeSilent : Prop) (r : Report) : Prop
  | answer (h : AnswersOnce r.messages)
      (hfailure : r.failure = none ∨ ∃ count rules, r.failure = some (.warnings count rules))
  | silent (h : AreSilent r.messages) (hsuccess : r.failure = none → mayBeSilent)

namespace Report

variable {mayBeSilent : Prop}

theorem isOrderly_ofFailure (failure : Failure) : (ofFailure failure).IsOrderly mayBeSilent :=
  .silent areSilent_nil nofun

theorem isOrderly_ofMessages {ms : List Message} (h : AnswersOnce ms) :
    (ofMessages ms).IsOrderly mayBeSilent :=
  .answer h (.inl rfl)

/-- A command whose only message is a document. -/
theorem isOrderly_document {d : Document} (h : Json.IsReadable d) :
    (ofMessages [.document d]).IsOrderly mayBeSilent :=
  isOrderly_ofMessages (answersOnce_singleton h)

/-- A command whose only message is for people. -/
theorem isOrderly_message {message : Message} (h : message.IsSilent) (hquiet : mayBeSilent) :
    (ofMessages [message]).IsOrderly mayBeSilent :=
  .silent (areSilent_singleton h) fun _ => hquiet

theorem IsOrderly.append_left {r : Report} (h : r.IsOrderly mayBeSilent) {ms : List Message}
    (hs : AreSilent ms) {mayBeSilent' : Prop} (himp : mayBeSilent → mayBeSilent') :
    ({ r with messages := ms ++ r.messages } : Report).IsOrderly mayBeSilent' := by
  cases h with
  | answer h hfailure => exact .answer (h.append_left hs) hfailure
  | silent h hsuccess =>
      exact .silent (List.forall_mem_append.2 ⟨hs, h⟩) fun hnone => himp (hsuccess hnone)

end Report

/-! ### What commands tell programs -/

/-- The command need not have an answer: it writes or keeps a file, or there is no rule to check. -/
def Command.MayBeSilent (s : Session) : Command → Prop
  | .check _ => s.config.rules = []
  | .initConfig _ => True
  | _ => False

section Commands

variable {m : Mode} (hm : m.json = true) (s : Session)
include hm

theorem isOrderly_evalTemplate (template : String) (values : List String) :
    (evalTemplate m s template values).IsOrderly False := by
  simp only [evalTemplate, hm, if_true]
  split
  · exact Report.isOrderly_ofFailure _
  · refine Report.isOrderly_ofMessages (.append_left (answersOnce_singleton ?_) ?_)
    · simp [evaluationDocument]
    · exact List.forall_mem_map.2 fun _ _ => trivial

omit hm in
theorem isReadable_nodeDocument (o : Outline) {children : List Document}
    (h : ∀ d ∈ children, Json.IsReadable d) : Json.IsReadable (o.nodeDocument children) := by
  rw [Outline.nodeDocument]
  split
  · simp
  · simpa using h

omit hm in
mutual

theorem isReadable_toDocument : ∀ o : Outline, Json.IsReadable o.toDocument
  | .literal _ => by simp [Outline.toDocument, Outline.nodeDocument]
  | .arg _ => by simp [Outline.toDocument, Outline.nodeDocument]
  | .call _ _ children => by
      rw [Outline.toDocument]
      exact isReadable_nodeDocument _ (isReadable_toDocuments children)
  | .concat children => by
      rw [Outline.toDocument]
      exact isReadable_nodeDocument _ (isReadable_toDocuments children)

theorem isReadable_toDocuments : ∀ os : List Outline,
    ∀ d ∈ Outline.toDocuments os, Json.IsReadable d
  | [] => by simp [Outline.toDocuments]
  | o :: os => List.forall_mem_cons.2 ⟨isReadable_toDocument o, isReadable_toDocuments os⟩

end

theorem isOrderly_explainTemplate (template : String) :
    (explainTemplate m s template).IsOrderly False := by
  simp only [explainTemplate, hm, if_true]
  split
  · exact Report.isOrderly_ofFailure _
  · split
    · exact Report.isOrderly_ofFailure _
    · refine Report.isOrderly_document ?_
      simpa [explanationDocument] using isReadable_toDocuments _

theorem isOrderly_listFunctions (name : Option String) :
    (listFunctions m s name).IsOrderly False := by
  have htable : ∀ functions, (functionTable m functions).IsOrderly False := by
    intro functions
    simp only [functionTable, hm, if_true]
    exact Report.isOrderly_document (by simp [functionDocument])
  unfold listFunctions
  dsimp only
  split
  · exact htable _
  · split
    · exact htable _
    · exact Report.isOrderly_ofFailure _

theorem isOrderly_checkRules (strict : Bool) :
    (checkRules m s strict).IsOrderly (s.config.rules = []) := by
  let used := s.configPath.toList.map fun path => Message.detail ("Using config " ++ path)
  have hused : AreSilent used := List.forall_mem_map.2 fun _ _ => trivial
  have hanswer : ∀ reports : List RuleReport,
      AnswersOnce (used ++ [.document (.list (reports.map RuleReport.toDocument))]) :=
    fun reports => (answersOnce_singleton (by simp [RuleReport.toDocument])).append_left hused
  simp only [checkRules, hm, if_true]
  split
  · next hempty => exact Report.isOrderly_message trivial (List.isEmpty_iff.1 hempty)
  · split
    · exact .silent hused nofun
    · split
      · exact .answer (hanswer _) (.inr ⟨_, _, rfl⟩)
      · exact Report.isOrderly_ofMessages
          ((hanswer _).append_right (areSilent_singleton trivial))

theorem isOrderly_derivation (r : Rule) (request : Request) (debugHeaders : Bool) :
    (derivation m r request debugHeaders).IsOrderly False := by
  simp only [derivation, hm, if_true]
  refine Report.isOrderly_document ?_
  unfold derivationDocument
  split_ifs <;> simp

theorem isOrderly_deriveKey (name : String) (simulation : Simulation) (debugHeaders : Bool) :
    (deriveKey m s name simulation debugHeaders).IsOrderly False := by
  unfold deriveKey
  split
  · exact Report.isOrderly_ofFailure _
  · split
    · exact Report.isOrderly_ofFailure _
    · split
      · exact Report.isOrderly_ofFailure _
      · exact isOrderly_derivation hm ..

omit hm in
theorem isReadable_keyMetrics (metrics : KeyMetrics Float) :
    Json.IsReadable metrics.toDocument := by
  simp [KeyMetrics.toDocument, RuleMetrics.toDocument, Summary.toDocument, Json.isReadable_ofFloat]

theorem isOrderly_benchmark (clock : Clock) (template : String) (values : List String)
    (iterations threads : ℕ) :
    (benchmark m s clock template values iterations threads).IsOrderly False := by
  have hmetrics : ∀ metrics : KeyMetrics Float, Json.IsReadable metrics.toDocument.byName :=
    fun metrics => Document.isReadable_byName _ (isReadable_keyMetrics metrics)
  simp only [benchmark, hm, if_true]
  split
  · exact Report.isOrderly_ofFailure _
  · split
    · exact Report.isOrderly_ofFailure _
    · exact Report.isOrderly_document (by simp [hmetrics, Json.isReadable_ofFloat])

theorem isOrderly_showConfig : (showConfig m s).IsOrderly False := by
  simp only [showConfig, hm, if_true]
  exact Report.isOrderly_document (by simp)

omit hm in
/-- Whatever is there, and whatever is answered. -/
theorem isOrderly_initConfig (force : Bool) : (initConfig s force).IsOrderly True := by
  have hwrite : (writeInitialConfig s.workspace).IsOrderly True := by
    unfold writeInitialConfig
    dsimp only
    split
    · exact Report.isOrderly_ofFailure _
    · exact .silent (areSilent_singleton trivial) fun _ => trivial
  unfold initConfig
  split
  · split
    · exact hwrite
    · exact Report.isOrderly_message trivial trivial
    · exact Report.isOrderly_ofFailure _
  · exact hwrite

theorem isOrderly_run (clock : Clock) :
    ∀ c : Command, (c.run m s clock).IsOrderly (c.MayBeSilent s)
  | .eval template values => isOrderly_evalTemplate hm s template values
  | .explain template => isOrderly_explainTemplate hm s template
  | .functions name => isOrderly_listFunctions hm s name
  | .check strict => isOrderly_checkRules hm s strict
  | .derive rule simulation debugHeaders => isOrderly_deriveKey hm s rule simulation debugHeaders
  | .bench template values iterations threads =>
      isOrderly_benchmark hm s clock template values iterations threads
  | .showConfig => isOrderly_showConfig hm s
  | .initConfig force => isOrderly_initConfig s force

end Commands

/-! ### The program -/

theorem areSilent_logWarnings (e : Environment) (verbose : Bool) (c : Config) :
    AreSilent (logWarnings e verbose c) := by
  unfold logWarnings
  generalize (if verbose then "debug" else c.logging.level) = level
  dsimp only
  split_ifs
  · exact areSilent_nil
  · exact areSilent_singleton trivial

theorem isOrderly_report (e : Environment) {i : Invocation} (hjson : i.mode.json = true) :
    (i.report e).IsOrderly
      (∃ s, Session.start e.workspace i.config = .ok s ∧ i.command.MayBeSilent s) := by
  unfold Invocation.report
  split
  · exact Report.isOrderly_ofFailure _
  · next s hs =>
      exact (isOrderly_run hjson s e.clock i.command).append_left
        (areSilent_logWarnings e i.mode.verbose s.config) fun hsilent => ⟨s, hs, hsilent⟩

/-- For programs the output is empty or one document on lines of its own, whatever the command and
its arguments, the files, the answers and the clock are; what is read from it is the document
itself.  If the command fails the output is empty, unless it fails because of warnings that it
reports.  If it does not fail the output is empty only where a file is written or kept, or where
there is no rule to check. -/
theorem output_is_one_document (e : Environment) {args : List String} {i : Invocation}
    (hread : Invocation.read args = .ok i) (hjson : i.mode.json = true) :
    ((outcome e args).out = "" ∨
      ∃ d, (outcome e args).out = Json.pretty d ++ "\n" ∧ Json.read? (Json.pretty d) = some d) ∧
    ((outcome e args).exit = 0 ∨ (outcome e args).out = "" ∨
      ∃ count rules, (i.report e).failure = some (.warnings count rules)) ∧
    ((outcome e args).exit = 0 → (outcome e args).out = "" →
      ∃ s, Session.start e.workspace i.config = .ok s ∧ i.command.MayBeSilent s) := by
  have hout : (outcome e args).out = i.mode.textOn .out (i.report e).messages := by
    rw [outcome, hread]
    rfl
  have hexit : (outcome e args).exit = 0 ↔ (i.report e).failure = none := by
    rw [outcome, hread]
    show (if (i.report e).failure.isSome then 1 else 0) = 0 ↔ _
    cases (i.report e).failure <;> simp
  rw [hout, hexit]
  cases isOrderly_report e hjson with
  | answer h hfailure =>
      obtain ⟨d, hd, hreadable⟩ := h.textOn_out hjson
      refine ⟨.inr ⟨d, hd, Json.read?_write Json.Layout.isBlank_indented 0 hreadable⟩,
        hfailure.imp_right .inr, fun _ hempty => ?_⟩
      have hne : Json.pretty d ++ "\n" ≠ "" := by simp
      exact absurd (hd.symm.trans hempty) hne
  | silent h hsuccess =>
      have hempty := textOn_of_areSilent hjson h .out
      exact ⟨.inl hempty, .inr (.inl hempty), fun hnone _ => hsuccess hnone⟩

/-- A strict check of a rule whose keys would hold a marker: the report on it is printed, and the
command fails after that. -/
theorem output_is_one_document_strict_check :
    let e : Environment := ⟨.ofFiles "/" [("/edge.json",
      "\x7b\"rules\":[\x7b\"name\":\"r\",\"template\":\"\x7blower\x7d\"\x7d]\x7d")], none,
      ⟨fun _ _ => ⟨0, 0⟩, ⟨0, 0⟩⟩⟩
    let i : Invocation := ⟨⟨false, true⟩, none, .check true⟩
    let o := outcome e ["--json", "check", "--strict"]
    Invocation.read ["--json", "check", "--strict"] = .ok i ∧ i.mode.json = true ∧
      (∃ d, o.out = Json.pretty d ++ "\n" ∧ Json.read? (Json.pretty d) = some d) ∧
      o.out = "[\n  \x7b\n    \"name\": \"r\",\n    \"template\": \"\x7blower\x7d\",\n" ++
        "    \"inputs\": [],\n    \"warnings\": [\n" ++
        "      \"`lower` at offset 1 takes 1 argument(s), got 0\"\n    ]\n  \x7d\n]\n" ∧
      (∃ count rules, (i.report e).failure = some (.warnings count rules)) ∧
      o.exit = 1 ∧ o.err = "\x7b\"error\":\"1 warning(s) in 1 rule(s)\"\x7d\n" := by
  intro e i o
  have hread : Invocation.read ["--json", "check", "--strict"] = .ok i := rfl
  have hexit : o.exit = 1 := by decide +kernel
  have hout : o.out = "[\n  \x7b\n    \"name\": \"r\",\n    \"template\": \"\x7blower\x7d\",\n" ++
      "    \"inputs\": [],\n    \"warnings\": [\n" ++
      "      \"`lower` at offset 1 takes 1 argument(s), got 0\"\n    ]\n  \x7d\n]\n" := by
    decide +kernel
  obtain ⟨hdocument, hfailure, -⟩ := output_is_one_document e hread rfl
  have hne : o.out ≠ "" := by
    rw [hout]
    decide
  have hne' : o.exit ≠ 0 := by
    rw [hexit]
    decide
  exact ⟨hread, rfl, hdocument.resolve_left hne, hout,
    (hfailure.resolve_left hne').resolve_left hne, hexit, by decide +kernel⟩

end CommandLine

end CacheKeys
