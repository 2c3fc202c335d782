import Mathlib.Data.List.Basic
import TwigPrinter.CommandLine.Run
import TwigPrinter.Proofs.Answers
/-!
Runs over a list of files. A file that is missing stops the run before anything is written; apart
from that each file counts for itself: what a run writes is put together from what runs over parts
of its list write, and it fails when one of them does. The log of a file stands before the message
about it, and no filter of the log changes what else is written.
-/
namespace TwigPrinter

namespace Conversion

variable {d : Disk} {paths : List String}

theorem checkPaths_eq_ok_iff : checkPaths d paths = .ok () ↔ ∀ p ∈ paths, d.holds p = true := by
  induction paths with
  | nil => simp [checkPaths]
  | cons p rest ih => cases h : d.holds p <;> simp [checkPaths, h, ih]

theorem checkPaths_of_find? {p : String} (h : paths.find? (fun q => !d.holds q) = some p) :
    checkPaths d paths = .error (.fileNotFound p) := by
  induction paths with
  | nil => simp at h
  | cons q rest ih =>
    cases hq : d.holds q with
    | true => simpa [checkPaths, hq] using ih (by simpa [hq] using h)
    | false =>
      obtain rfl : q = p := by simpa [hq] using h
      simp [checkPaths, hq]

end Conversion

namespace CommandLine

theorem asLines_eq_self_iff (text : String) :
    asLines text = text ↔ text.toList.getLast? = some '\n' := by
  unfold asLines
  split
  · simp_all
  · rename_i h
    have hlength : (text ++ "\n").length ≠ text.length := by simp
    simp only [beq_iff_eq] at h
    simp only [h, iff_false]
    exact fun heq => hlength (congrArg String.length heq)

theorem asLines_eq_or (text : String) : asLines text = text ∨ asLines text = text ++ "\n" := by
  unfold asLines
  split <;> simp

theorem getLast?_asLines (text : String) : (asLines text).toList.getLast? = some '\n' := by
  rcases asLines_eq_or text with h | h
  · rw [h]
    exact (asLines_eq_self_iff text).1 h
  · simp [h]

namespace Outcome

/-- One part of a run after the other. -/
def inTurn (parts : List Outcome) : Outcome := parts.foldr andThen {}

variable (parts more : List Outcome)

@[simp] theorem inTurn_nil : inTurn [] = {} := rfl

@[simp] theorem inTurn_cons (a : Outcome) : inTurn (a :: parts) = a.andThen (inTurn parts) := rfl

theorem stdout_inTurn : (inTurn parts).stdout = String.join (parts.map (·.stdout)) := by
  induction parts with
  | nil => rfl
  | cons a rest ih => simp [andThen, ih, String.join_cons]

theorem stderr_inTurn : (inTurn parts).stderr = parts.flatMap (·.stderr) := by
  induction parts with
  | nil => rfl
  | cons a rest ih => simp [andThen, ih]

theorem code_inTurn {parts : List Outcome} (h : ∀ a ∈ parts, a.code ≤ 1) :
    (inTurn parts).code ≤ 1 ∧ ((inTurn parts).code = 1 ↔ ∃ a ∈ parts, a.code = 1) := by
  induction parts with
  | nil => simp
  | cons a rest ih =>
    have ha := h a List.mem_cons_self
    have hrest := ih fun b hb => h b (List.mem_cons_of_mem a hb)
    rcases Nat.le_one_iff_eq_zero_or_eq_one.1 ha with h0 | h1
    · simpa [andThen, h0] using hrest
    · simp [andThen, h1]

end Outcome

namespace Notice

def text? : Notice → Option String
  | .message text => some text
  | .log _ => none

theorem filterMap_text?_map_message (texts : List String) :
    (texts.map Notice.message).filterMap text? = texts := by
  simp [List.filterMap_map, Function.comp_def, text?]

theorem filterMap_text?_logged (filter : LogFilter) (records : List LogRecord) :
    (logged filter records).filterMap text? = [] := by
  simp [logged, text?]

end Notice

theorem logged_append (filter : LogFilter) (xs ys : List LogRecord) :
    logged filter (xs ++ ys) = logged filter xs ++ logged filter ys := by
  simp [logged]

section Runs

variable (filter : LogFilter) (c : Conversion) (r : Registry) (d : Disk)

/-- What is written for a file that can be converted. -/
def output? (path : String) : Option String := (c.ofFile r d path).result.toOption.map asLines

/-- What is written for a file that cannot be converted. -/
def diagnostic? (path : String) : Option String :=
  (errorOf? (c.ofFile r d path).result).map fun e => path ++ ": " ++ e.message ++ "\n"

/-- All records of the log of one file. -/
def records (path : String) : List LogRecord :=
  let failure? := (errorOf? (c.ofFile r d path).result).map (transformFailed path)
  transforming c path :: (c.ofFile r d path).log ++ failure?.toList

/-- What goes to the error stream for one file. -/
def notices (path : String) : List Notice :=
  logged filter (records c r d path) ++ (diagnostic? c r d path).toList.map .message

theorem runPath_eq (path : String) :
    runPath filter c r d path =
      ⟨(output? c r d path).getD "", notices filter c r d path,
        if (diagnostic? c r d path).isSome then 1 else 0⟩ := by
  unfold runPath output? notices records diagnostic?
  obtain ⟨log, result⟩ := c.ofFile r d path
  cases result with
  | error e => simp [Except.toOption, ← logged_append]
  | ok text => simp [Except.toOption]

theorem filterMap_text?_notices (path : String) :
    (notices filter c r d path).filterMap Notice.text? = (diagnostic? c r d path).toList := by
  rw [notices, List.filterMap_append, Notice.filterMap_text?_logged,
    Notice.filterMap_text?_map_message, List.nil_append]

theorem join_map_getD {α : Type} (f : α → Option String) (xs : List α) :
    String.join (xs.map fun x => (f x).getD "") = String.join (xs.filterMap f) := by
  induction xs with
  | nil => rfl
  | cons x rest ih => cases h : f x <;> simp [String.join_cons, h, ih]

variable {filter c r d} {paths : List String}

theorem runPaths_of_missing {p : String} (h : paths.find? (fun q => !d.holds q) = some p) :
    runPaths filter c r d paths = ⟨"", [.message ("'" ++ p ++ "' does not exist\n")], 1⟩ := by
  simp [runPaths, Conversion.checkPaths_of_find? h, Outcome.failure, ConversionError.message,
    String.append_assoc]

theorem runPaths_eq_inTurn (h : ∀ p ∈ paths, d.holds p = true) :
    runPaths filter c r d paths = Outcome.inTurn (paths.map (runPath filter c r d)) := by
  simp [runPaths, Conversion.checkPaths_eq_ok_iff.2 h, Outcome.inTurn]

theorem stdout_runPaths (h : ∀ p ∈ paths, d.holds p = true) :
    (runPaths filter c r d paths).stdout = String.join (paths.filterMap (output? c r d)) := by
  rw [runPaths_eq_inTurn h, Outcome.stdout_inTurn, ← join_map_getD, List.map_map]
  simp [Function.comp_def, runPath_eq]

theorem stderr_runPaths (h : ∀ p ∈ paths, d.holds p = true) :
    (runPaths filter c r d paths).stderr = paths.flatMap (notices filter c r d) := by
  rw [runPaths_eq_inTurn h, Outcome.stderr_inTurn, List.flatMap_map]
  simp [runPath_eq]

theorem messages_runPaths (h : ∀ p ∈ paths, d.holds p = true) :
    (runPaths filter c r d paths).stderr.filterMap Notice.text? =
      paths.filterMap (diagnostic? c r d) := by
  rw [stderr_runPaths h, List.filterMap_flatMap, List.filterMap_eq_flatMap_toList]
  simp [filterMap_text?_notices]

theorem code_runPaths (h : ∀ p ∈ paths, d.holds p = true) :
    (runPaths filter c r d paths).code ≤ 1 ∧
      ((runPaths filter c r d paths).code = 1 ↔ ∃ p ∈ paths, (diagnostic? c r d p).isSome) := by
  have hcode : ∀ p, (runPath filter c r d p).code ≤ 1 ∧
      ((runPath filter c r d p).code = 1 ↔ (diagnostic? c r d p).isSome) := by
    intro p
    rw [runPath_eq]
    cases diagnostic? c r d p <;> simp
  have hall : ∀ a ∈ paths.map (runPath filter c r d), a.code ≤ 1 := by
    simpa using fun p _ => (hcode p).1
  obtain ⟨hle, hone⟩ := Outcome.code_inTurn hall
  rw [runPaths_eq_inTurn h]
  refine ⟨hle, hone.trans ⟨?_, ?_⟩⟩
  · rintro ⟨a, ha, hcode1⟩
    obtain ⟨p, hp, rfl⟩ := List.mem_map.1 ha
    exact ⟨p, hp, (hcode p).2.1 hcode1⟩
  · rintro ⟨p, hp, hsome⟩
    exact ⟨runPath filter c r d p, List.mem_map_of_mem hp, (hcode p).2.2 hsome⟩

/-- A run over files of which one is missing names the first such file and writes nothing else. Any
other run writes the output of each file that can be converted and one message for each other file,
and fails when there is a file of the second kind; wherever its list is divided, it is the run over
the first part and then the run over the second. Besides the messages, the error stream has the
records of the log that pass the filter, those of a file before the message about it. -/
theorem runPaths_all_or_each (filter : LogFilter) (c : Conversion) (r : Registry) (d : Disk)
    (paths : List String) :
    (∀ p, paths.find? (fun q => !d.holds q) = some p →
      runPaths filter c r d paths = ⟨"", [.message ("'" ++ p ++ "' does not exist\n")], 1⟩) ∧
    ((∀ p ∈ paths, d.holds p = true) →
      (∀ ps qs, paths = ps ++ qs →
        (runPaths filter c r d paths).stdout =
          (runPaths filter c r d ps).stdout ++ (runPaths filter c r d qs).stdout ∧
        (runPaths filter c r d paths).stderr =
          (runPaths filter c r d ps).stderr ++ (runPaths filter c r d qs).stderr ∧
        ((runPaths filter c r d paths).code = 1 ↔
          (runPaths filter c r d ps).code = 1 ∨ (runPaths filter c r d qs).code = 1)) ∧
      (runPaths filter c r d paths).stdout = String.join (paths.filterMap (output? c r d)) ∧
      (runPaths filter c r d paths).stderr.filterMap Notice.text? =
        paths.filterMap (diagnostic? c r d) ∧
      (runPaths filter c r d paths).stderr = paths.flatMap (notices filter c r d) ∧
      (runPaths filter c r d paths).code ≤ 1 ∧
      ((runPaths filter c r d paths).code = 1 ↔ ∃ p ∈ paths, (diagnostic? c r d p).isSome)) ∧
    ∀ text, (asLines text).toList.getLast? = some '\n' ∧
      (asLines text = text ∨ asLines text = text ++ "\n") ∧
      (asLines text = text ↔ text.toList.getLast? = some '\n') := by
  refine ⟨fun p => runPaths_of_missing, fun h => ⟨?_, ?_⟩, fun text => ?_⟩
  · rintro ps qs rfl
    have hps : ∀ p ∈ ps, d.holds p = true := fun p hp => h p (List.mem_append_left qs hp)
    have hqs : ∀ q ∈ qs, d.holds q = true := fun q hq => h q (List.mem_append_right ps hq)
    refine ⟨?_, ?_, ?_⟩
    · rw [stdout_runPaths h, stdout_runPaths hps, stdout_runPaths hqs, List.filterMap_append,
        String.join_append]
    · rw [stderr_runPaths h, stderr_runPaths hps, stderr_runPaths hqs, List.flatMap_append]
    · rw [(code_runPaths h).2, (code_runPaths hps).2, (code_runPaths hqs).2]
      simp only [List.mem_append, or_and_right, exists_or]
  · exact ⟨stdout_runPaths h, messages_runPaths h, stderr_runPaths h, code_runPaths h⟩
  · exact ⟨getLast?_asLines text, asLines_eq_or text, asLines_eq_self_iff text⟩

/-- A disk with a template and a directory, which cannot be converted. -/
def diskWithDirectory : Disk :=
  Disk.ofList [("dir", .directory),
    ("x.json", .file "\x7b\"typename\": \"Symbol\", \"value\": \"x\"\x7d".toUTF8)]

/-- What is logged when nothing is asked for is the warning ahead of the message. -/
theorem runPaths_around_a_directory :
    (runPaths (.usual false) {} (.withOptions {}) diskWithDirectory
        ["x.json", "dir", "x.json"]).stdout =
        (runPaths (.usual false) {} (.withOptions {}) diskWithDirectory ["x.json", "dir"]).stdout
          ++ "x\n" ∧
      (runPaths (.usual false) {} (.withOptions {}) diskWithDirectory
        ["x.json", "dir", "x.json"]).stderr =
        [.log (transformFailed "dir" (.unreadable .isDirectory)),
          .message "dir: IO error: Is a directory (os error 21)\n"] ∧
      (runPaths (.usual false) {} (.withOptions {}) diskWithDirectory
        ["x.json", "dir", "x.json"]).code = 1 ∧
      runPaths (.usual true) {} (.withOptions {}) diskWithDirectory
        ["x.json", "no.json", "dir", "none"] = ⟨"", [.message "'no.json' does not exist\n"], 1⟩ := by
  obtain ⟨-, heach, -⟩ := runPaths_all_or_each (.usual false) {} (.withOptions {})
    diskWithDirectory ["x.json", "dir", "x.json"]
  obtain ⟨hsplit, -, -, hstderr, -, hcode⟩ := heach (by decide)
  have hlast : (runPaths (.usual false) {} (.withOptions {}) diskWithDirectory ["x.json"]).stdout =
      "x\n" := by
    decide +kernel
  have hnotices : ["x.json", "dir", "x.json"].flatMap
      (notices (.usual false) {} (.withOptions {}) diskWithDirectory) =
        [.log (transformFailed "dir" (.unreadable .isDirectory)),
          .message "dir: IO error: Is a directory (os error 21)\n"] := by
    decide +kernel
  refine ⟨?_, hstderr.trans hnotices, hcode.2 ⟨"dir", by decide, by decide⟩, ?_⟩
  · rw [(hsplit ["x.json", "dir"] ["x.json"] rfl).1, hlast]
  · simpa using (runPaths_all_or_each (.usual true) {} (.withOptions {}) diskWithDirectory
      ["x.json", "no.json", "dir", "none"]).1 "no.json" (by decide)

end Runs
end CommandLine
end TwigPrinter
