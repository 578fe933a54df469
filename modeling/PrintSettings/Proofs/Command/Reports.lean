import Mathlib.Logic.Basic
import PrintSettings.Command.Arguments
import PrintSettings.Proofs.Command.Phases

/-! # What a run leaves behind

A run either prints what it was asked for and gives back the status zero (`Printed`), or prints
nothing but the text of its first fault and gives back the status of that (`Reported`). The status
is found by going through the chain of causes of the failure, which always holds an error of settings
(`statusOf_chain`).

A run that is ended from within does neither of the two. This happens where the library that reads
log filters ends the program (`not_settles_of_fatal`). If it does not (`Platform.ReadsFilter`), it
happens exactly where a pair names an extruder that there is no room for
(`settles_iff_not_outgrows`). -/

namespace PrintSettings.Command

/-! ## Chains of causes -/

/-- A link of a chain of causes: a task that was being done, an error of settings, or what lies
behind one. -/
inductive Link where
  | task (text : String)
  | setting (error : SettingError)
  | cause (text : String)

def Link.text : Link → String
  | task text | cause text => text
  | setting error => error.message

def Link.setting? : Link → Option SettingError
  | setting error => some error
  | _ => none

/-- The chain of causes of a failure, from the widest task to what lies behind the error. -/
def Failure.chain (f : Failure) : List Link :=
  f.tasks.map .task ++ .setting f.error :: f.error.causes.map .cause

/-- The exit status for a chain of causes: that of the first error of settings, as a process can give
it back, and one if there is none. -/
def statusOf (chain : List Link) : Nat :=
  match chain.findSome? Link.setting? with
  | some e => min (max e.exitCode 1) 255
  | none => 1

theorem Failure.text_eq (f : Failure) :
    f.text = "Error: " ++ String.intercalate ": " (f.chain.map Link.text) := by
  simp [text, chain, Function.comp_def, Link.text]

/-- Whatever was being done, the error of settings is found in the chain. -/
theorem Failure.findSome?_chain (f : Failure) :
    f.chain.findSome? Link.setting? = some f.error := by
  have htasks : (f.tasks.map Link.task).findSome? Link.setting? = none := by
    simp [Link.setting?]
  rw [chain, List.findSome?_append, htasks]
  rfl

theorem statusOf_chain (f : Failure) : statusOf f.chain = f.error.exitCode := by
  rw [statusOf, f.findSome?_chain]
  cases f.error <;> rfl

/-! ## Reports -/

/-- A text is what an action shows of a document. -/
def Renders (d : Document) : Action → String → Prop
  | .get q, text => ∃ found, d.textOf q.key q.extruder q.followsLimit = .ok found ∧
    text = q.form.shown q.key found
  | .args, text => text = Arguments.ofPairs (Arguments.settingPairs d)

theorem renders_of_reply {d : Document} {action : Action} {text : String}
    (h : d.reply action = .ok text) : Renders d action text := by
  cases action with
  | args => exact (Except.ok.inj h).symm
  | get q =>
    obtain ⟨found, hfound, hreply⟩ := exists_of_bind_eq_ok h
    unfold Form.reply at hreply
    split at hreply
    next => contradiction
    next => exact ⟨found, hfound, (Except.ok.inj hreply).symm⟩

section Reports

variable (files : String → Contents) (environment : List Variable) (i : Invocation)

/-- Nothing is wrong, and what is asked for is printed with one line end after it. -/
structure Printed (report : Report) (text : String) : Prop where
  passed : ∀ p, Passed files environment i p
  rendered : ∃ d, Holds files environment i d ∧ Renders d i.action text
  exitCode : report.exitCode = 0
  output : report.output = text ++ "\n"
  failure : report.failure = none

/-- Nothing is printed but an error text, and the status is that of the first fault, which the chain
of causes gives. -/
structure Reported (report : Report) (f : Failure) (status : Nat) : Prop where
  first : FirstFault files environment i Phase.inOrder f.error status
  exitCode : report.exitCode = status
  output : report.output = ""
  failure : report.failure = some ("Error: " ++ String.intercalate ": " (f.chain.map Link.text))
  /-- The chain holds an error of settings, whatever was being done. -/
  found : f.chain.findSome? Link.setting? = some f.error
  code : f.error.exitCode = status
  chain : statusOf f.chain = status

/-- Exactly one of the two holds. -/
def Settles (report : Report) : Prop :=
  Xor (∃ text, Printed files environment i report text)
    (∃ f status, Reported files environment i report f status)

end Reports

variable {files : String → Contents} {environment : List Variable} {i : Invocation}

theorem printed_of_output {text : String} (h : (output files environment i).result = .ok text) :
    Printed files environment i (.ofResult (.ok text)) text := by
  have hverdict : Verdict files environment i Phase.inOrder (.ok text) := h ▸ verdict_output
  refine ⟨fun p => hverdict p (by cases p <;> decide), ?_, rfl, rfl, rfl⟩
  rw [result_output] at h
  obtain ⟨registry, -, h⟩ := exists_of_bind_eq_ok h
  obtain ⟨d, hd, h⟩ := exists_of_bind_eq_ok h
  exact ⟨d, hd, renders_of_reply (mapError_eq_ok_iff.1 h)⟩

theorem reported_of_output {f : Failure} (h : (output files environment i).result = .error f) :
    ∃ status, Reported files environment i (.ofResult (.error f)) f status := by
  have hverdict : Verdict files environment i Phase.inOrder (.error f) := h ▸ verdict_output
  obtain ⟨status, hfirst⟩ := hverdict
  have hstatus : status = f.error.exitCode := by
    obtain ⟨_, _, _, _, _, hfault⟩ := hfirst
    exact hfault.status_eq
  exact ⟨status, hfirst, hstatus.symm, rfl, congrArg some f.text_eq, f.findSome?_chain,
    hstatus.symm, (statusOf_chain f).trans hstatus.symm⟩

/-- **A run settles.** -/
theorem settles_run : Settles files environment i (run files environment i).value := by
  rw [value_run]
  cases h : (output files environment i).result with
  | ok text =>
    refine .inl ⟨⟨text, printed_of_output h⟩, ?_⟩
    rintro ⟨f, status, hreported⟩
    exact nomatch hreported.failure
  | error f =>
    refine .inr ⟨⟨f, reported_of_output h⟩, ?_⟩
    rintro ⟨text, hprinted⟩
    exact nomatch hprinted.failure

-- Pairs, pairs for extruders and the extruder asked are all at fault; the first of them is reported.
example : (run (fun _ => .error .notFound) []
    ⟨none, none, none, ⟨["k"], ["k"]⟩, .get ⟨"k", .value .text, some 4, false⟩⟩).value =
      ⟨1, "", some "Error: Invalid argument: Expected key=value, got 'k'"⟩ := by decide

/-! ## Ends from within -/

/-- A program that is ended from within leaves no answer and no error text. -/
theorem not_settles_fatal (status : Nat) : ¬ Settles files environment i (.fatal status) := by
  rintro (⟨⟨text, hprinted⟩, -⟩ | ⟨⟨f, status, hreported⟩, -⟩)
  · have hlength := congrArg String.length hprinted.output
    rw [String.length_append] at hlength
    exact absurd hlength.symm (Nat.succ_ne_zero _)
  · exact nomatch hreported.failure

variable {p : Platform}

theorem settles_report_iff : Settles files environment i (p.report files environment i) ↔
    ¬ Outgrows files environment i p.room := by
  rw [← isSome_outgrowth?_iff]
  unfold Platform.report
  cases outgrowth? p.room files environment i with
  | none => exact iff_of_true settles_run (by simp)
  | some index => exact iff_of_false (not_settles_fatal _) (by simp)

theorem Outgrows.mono {room room' : Nat} (h : Outgrows files environment i room')
    (hle : room ≤ room') : Outgrows files environment i room := by
  obtain ⟨hpassed, d, hd, before, arg, after, q, hsplit, hbefore, hq, hcount, hroom⟩ := h
  exact ⟨hpassed, d, hd, before, arg, after, q, hsplit, hbefore, hq, hcount, hle.trans hroom⟩

/-! ## Log filters -/

/-- The library gives a result for the log filter of a run, if there is one. -/
def Platform.ReadsFilter (p : Platform) (environment : List Variable) (i : Invocation) : Prop :=
  ∀ text ∈ filterInUse? i.logFilter environment, p.filterFault? text ≠ some .fatal

theorem logSetup_eq_fatal_iff {fault? : String → Option FilterFault} {given : Option String} :
    LogSetup.of fault? given environment = .fatal ↔
      ∃ text ∈ filterInUse? given environment, fault? text = some .fatal := by
  unfold LogSetup.of filterInUse?
  cases given with
  | some text =>
    simp only [Option.some_or, Option.mem_some_iff, exists_eq_left']
    cases fault? text with
    | none => simp
    | some fault => cases fault <;> simp
  | none =>
    rw [Option.none_or]
    cases environmentFilter? environment with
    | none => simp
    | some text =>
      cases h : fault? text with
      | none => simp [h]
      | some fault => cases fault <;> simp [h]

theorem report_of_readsFilter (h : p.ReadsFilter environment i) :
    (p.session files environment i).2 = p.report files environment i := by
  unfold Platform.session
  split
  next => rfl
  next => rfl
  next hfatal =>
    obtain ⟨text, htext, hfault⟩ := logSetup_eq_fatal_iff.1 hfatal
    exact absurd hfault (h text htext)

theorem not_settles_of_fatal (h : LogSetup.of p.filterFault? i.logFilter environment = .fatal) :
    ¬ Settles files environment i (p.session files environment i).2 := by
  rw [Platform.session, h]
  exact not_settles_fatal _

/-- A run settles exactly if its log filter is read and it comes to no pair without room. -/
theorem settles_session_iff : Settles files environment i (p.session files environment i).2 ↔
    p.ReadsFilter environment i ∧ ¬ Outgrows files environment i p.room := by
  by_cases hreads : p.ReadsFilter environment i
  · rw [report_of_readsFilter hreads, settles_report_iff, and_iff_right hreads]
  · have hfatal : LogSetup.of p.filterFault? i.logFilter environment = .fatal := by
      rw [logSetup_eq_fatal_iff]
      simpa [Platform.ReadsFilter] using hreads
    exact iff_of_false (not_settles_of_fatal hfatal) fun h => hreads h.1

-- A filter that begins with a blank is cut within a character of two octets.
example : (session (fun _ => .error .notFound) []
    ⟨some " [é]", none, none, ⟨["k=v"], []⟩, .get ⟨"k", .value .text, none, false⟩⟩).2 =
      ⟨101, "", none⟩ := by decide

/-- **What a run leaves behind.** Either nothing is wrong, the status is zero and the text that is
asked for is printed with one line end; or standard output stays empty, an error text is printed, and
the status is that of the first phase at fault, found in the chain of causes. If the log filter is
read, this holds of a run exactly if it does not come to a pair that there is no room for. -/
theorem settles_iff_not_outgrows (hreads : p.ReadsFilter environment i) :
    Settles files environment i (p.session files environment i).2 ↔
      ¬ Outgrows files environment i p.room := by
  rw [settles_session_iff, and_iff_right hreads]

/-- A question for the second extruder, with a log filter that is malformed. -/
def secondExtruder : Invocation :=
  ⟨some "a=b=c", none, none, ⟨["k=v"], ["1:k=w"]⟩, .get ⟨"k", .value .text, some 1, false⟩⟩

/-- Two extruders find room on the standard platform, but not on one with room for a single one. -/
theorem settles_iff_not_outgrows_secondExtruder :
    let files : String → Contents := fun _ => .error .notFound
    let small : Platform := ⟨filterFault?, 1, by decide⟩
    Platform.standard.ReadsFilter [] secondExtruder ∧ small.ReadsFilter [] secondExtruder ∧
    session files [] secondExtruder =
      (some "Invalid log level 'a=b=c', falling back to 'warn'", ⟨0, "w\n", none⟩) ∧
    Settles files [] secondExtruder (session files [] secondExtruder).2 ∧
    ¬ Settles files [] secondExtruder (small.session files [] secondExtruder).2 := by
  intro files small
  have hfault : filterFault? "a=b=c" ≠ some .fatal := by decide
  have hreads : ∀ text ∈ filterInUse? secondExtruder.logFilter [],
      filterFault? text ≠ some .fatal := by
    rintro text ⟨⟩
    exact hfault
  refine ⟨hreads, hreads, by decide, ?_, ?_⟩
  · refine (settles_iff_not_outgrows (p := .standard) hreads).2 ?_
    rw [← isSome_outgrowth?_iff]
    decide
  · refine mt (settles_iff_not_outgrows (p := small) hreads).1 (not_not_intro ?_)
    rw [← isSome_outgrowth?_iff]
    decide

/-- A question with a pair for the extruder with the largest number that can be read. -/
def lastExtruder : Invocation :=
  ⟨none, none, none, ⟨["k=v"], ["18446744073709551615:a=b"]⟩,
    .get ⟨"k", .value .text, none, false⟩⟩

/-- Nothing is wrong with the question, nor with its pair. But there is no room for so many
extruders on any platform, and the run leaves behind neither an answer nor an error. -/
theorem not_settles_lastExtruder :
    let files : String → Contents := fun _ => .error .notFound
    Invocation.ofArguments? ["get", "k", "-s", "k=v", "-x", "18446744073709551615:a=b"] =
      some lastExtruder ∧
    (session files [] { lastExtruder with inputs := ⟨["k=v"], []⟩ }).2 = ⟨0, "v\n", none⟩ ∧
    ExtruderPair.parse "18446744073709551615:a=b" = .ok ⟨0xffffffffffffffff, ⟨"a", "b"⟩⟩ ∧
    (session files [] lastExtruder).2 = ⟨101, "", none⟩ ∧
    ∀ p : Platform, ¬ Settles files [] lastExtruder (p.session files [] lastExtruder).2 := by
  intro files
  have houtgrows : Outgrows files [] lastExtruder Document.mostExtruders :=
    isSome_outgrowth?_iff.1 (by decide)
  refine ⟨by decide, by decide, by decide, by decide, fun p => ?_⟩
  have hreport : p.session files [] lastExtruder = (none, p.report files [] lastExtruder) := rfl
  rw [hreport, settles_report_iff]
  exact not_not_intro (houtgrows.mono p.room_le)

end PrintSettings.Command
