/-
An input from the standard input instead of a file.  For every option that names a document of a
request, a dash and the text on the standard input give what a file with that text gives.  The
configuration is the exception: a dash there is the name of a file, and nothing else is read.
-/
import Amend.Main
import Amend.Proofs.CommandLine.Reading

namespace Amend
namespace CommandLine

/-- The options whose value is the path of an input. -/
inductive InputOption where
  | record
  | update
  | rules
  | types
  | config
deriving DecidableEq

namespace Command

/-- The path that an option of a command names, if the command has the option. -/
def path? : Command → InputOption → Option String
  | .apply record _ _ _ _, .record => some record
  | .apply _ update _ _ _, .update => some update
  | .apply _ _ rules _ _, .rules => rules
  | .apply _ _ _ types _, .types => types
  | .apply _ _ _ _ config, .config => config
  | .validate _ _ rules _, .rules => some rules
  | .validate _ _ _ config, .config => config
  | _, _ => none

/-- The command with another path for an option that it has. -/
def withPath (path : String) : Command → InputOption → Command
  | .apply _ update rules types config, .record => .apply path update rules types config
  | .apply record _ rules types config, .update => .apply record path rules types config
  | .apply record update _ types config, .rules => .apply record update (some path) types config
  | .apply record update rules _ config, .types => .apply record update rules (some path) config
  | .apply record update rules types _, .config => .apply record update rules types (some path)
  | .validate field value _ config, .rules => .validate field value path config
  | .validate field value rules _, .config => .validate field value rules (some path)
  | command, _ => command

theorem usesStandard_apply {record update : String} {rules types config : Option String}
    (h : (apply record update rules types config).usesStandard = false) :
    isStandard record = false ∧ isStandard update = false ∧
      rules.any isStandard = false ∧ types.any isStandard = false := by
  simp only [usesStandard, List.any_append, Bool.or_eq_false_iff] at h
  cases rules <;> cases types <;> simpa [and_assoc] using h

theorem usesStandard_withPath_config (path : String) (c : Command) :
    (c.withPath path .config).usesStandard = c.usesStandard := by
  cases c <;> rfl

end Command

/-! ## Answers -/

/-- Outcomes whose answers agree in every member but the message: one status, and the same data or
the same code of an error. -/
def SameAnswer (a b : Outcome) : Prop :=
  ∀ key, key ≠ "message" → (response a.result).member? key = (response b.result).member? key

theorem SameAnswer.of_code {f g : Failure} (h : f.code = g.code) (log log' : Log) :
    SameAnswer ⟨.error f, log⟩ ⟨.error g, log'⟩ := by
  intro key hkey
  simp only [response, Value.member?, Members.get?, h, if_neg hkey.symm]

theorem member?_code_eq_some_iff {o : Outcome} {code : String} :
    (response o.result).member? "code" = some (.str code) ↔
      ∃ f, o.result = .error f ∧ f.code = code := by
  obtain ⟨result, log⟩ := o
  cases result with
  | ok data => simp [response, Value.member?, Members.get?]
  | error f => simp [response, Value.member?, Members.get?]

/-- A failure has the same answer as the outcomes that fail with its code. -/
theorem sameAnswer_iff_of_code {a b : Outcome} {code : String}
    (hb : (response b.result).member? "code" = some (.str code)) :
    SameAnswer a b ↔ (response a.result).member? "code" = some (.str code) := by
  constructor
  · intro hsame
    rw [hsame "code" (by decide), hb]
  · intro ha
    obtain ⟨f, hf, hfcode⟩ := member?_code_eq_some_iff.mp ha
    obtain ⟨g, hg, hgcode⟩ := member?_code_eq_some_iff.mp hb
    have hanswer := SameAnswer.of_code (hfcode.trans hgcode.symm) a.log b.log
    intro key hkey
    rw [hf, hg]
    exact hanswer key hkey

/-! ## Runs -/

variable {R S : Inputs → Inputs → Prop} {i j : Inputs} {unseeded : Random.Stream} {log : Log}

/-- The configuration is read from the files. -/
theorem loadConfig_sameFiles (h : SameFiles i j) (log : Log) (config : Option String) :
    loadConfig i log config = loadConfig j log config := by
  cases config with
  | none => rfl
  | some path => rw [loadConfig, loadConfig, h]

theorem run_apply_sameAnswer {record record' update update' : String}
    {rules rules' types types' config : Option String} (hij : R i j) (hfiles : SameFiles i j)
    (h : Simulates R S (readRequest record update rules types)
      (readRequest record' update' rules' types')) :
    SameAnswer (run unseeded i log (.apply record update rules types config))
      (run unseeded j log (.apply record' update' rules' types' config)) := by
  have hrequest := h i j hij
  simp only [run, StateT.run, loadConfig_sameFiles hfiles]
  obtain ⟨f | config, log⟩ := loadConfig j log config
  · exact .of_code rfl _ _
  · generalize readRequest record update rules types i = request at hrequest
    generalize readRequest record' update' rules' types' j = request' at hrequest
    cases hrequest with
    | ok request _ => exact fun _ _ => rfl
    | error hcode => exact .of_code hcode _ _

theorem run_validate_sameAnswer {field value rules rules' : String} {config : Option String}
    (hij : R i j) (hfiles : SameFiles i j)
    (h : Simulates R S (readText rules) (readText rules')) :
    SameAnswer (run unseeded i log (.validate field value rules config))
      (run unseeded j log (.validate field value rules' config)) := by
  simp only [run, StateT.run, loadConfig_sameFiles hfiles]
  obtain ⟨f | config, log⟩ := loadConfig j log config
  · exact .of_code rfl _ _
  · have hvalidate := validate_simulates config field value h i j hij
    dsimp only
    generalize CommandLine.validate config field value rules i = data at hvalidate
    generalize CommandLine.validate config field value rules' j = data' at hvalidate
    cases hvalidate with
    | ok data _ => exact fun _ _ => rfl
    | error hcode => exact .of_code hcode _ _

/-- A command that names only files does not look at the standard input. -/
theorem run_files {c : Command} (hc : c.usesStandard = false) (h : SameFiles i j) :
    SameAnswer (run unseeded i log c) (run unseeded j log c) := by
  cases c with
  | apply record update rules types config =>
    obtain ⟨hrecord, hupdate, hrules, htypes⟩ := Command.usesStandard_apply hc
    exact run_apply_sameAnswer h h (readRequest_simulates (readText_file id hrecord)
      (readText_file id hupdate) (readRules_files id hrules) (readTypes_files id htypes))
  | validate field value rules config =>
    exact run_validate_sameAnswer h h (readText_file id hc)
  | operators => exact fun _ _ => rfl

/-- A dash for the path of a document, with the file's text on the standard input. -/
theorem run_dash_document {c : Command} {o : InputOption} {path text : String}
    (hc : c.usesStandard = false) (hpath : c.path? o = some path) (ho : o ≠ .config)
    (h : Waiting path text i j) :
    SameAnswer (run unseeded i log c) (run unseeded j log (c.withPath "-" o)) := by
  have hwaiting : ∀ {i j}, Waiting path text i j → SameFiles i j := Waiting.sameFiles
  cases c with
  | apply record update rules types config =>
    obtain ⟨hrecord, hupdate, hrules, htypes⟩ := Command.usesStandard_apply hc
    cases o with
    | record =>
      obtain rfl := Option.some.inj hpath
      exact run_apply_sameAnswer h h.1 (readRequest_simulates (readText_dash hrecord)
        (readText_file id hupdate) (readRules_files id hrules) (readTypes_files id htypes))
    | update =>
      obtain rfl := Option.some.inj hpath
      exact run_apply_sameAnswer h h.1 (readRequest_simulates (readText_file hwaiting hrecord)
        (readText_dash hupdate) (readRules_files id hrules) (readTypes_files id htypes))
    | rules =>
      obtain rfl : rules = some path := hpath
      exact run_apply_sameAnswer h h.1 (readRequest_simulates (readText_file hwaiting hrecord)
        (readText_file hwaiting hupdate) (readRules_simulates (readText_dash hrules))
        (readTypes_files id htypes))
    | types =>
      obtain rfl : types = some path := hpath
      exact run_apply_sameAnswer h h.1 (readRequest_simulates (readText_file hwaiting hrecord)
        (readText_file hwaiting hupdate) (readRules_files hwaiting hrules)
        (readTypes_simulates (readText_dash htypes)))
    | config => exact absurd rfl ho
  | validate field value rules config =>
    cases o with
    | rules =>
      obtain rfl := Option.some.inj hpath
      exact run_validate_sameAnswer h h.1 (readText_dash hc)
    | config => exact absurd rfl ho
    | record | update | types => nomatch hpath
  | operators => cases o <;> nomatch hpath

/-- A dash for the path of the configuration is the name of a file. -/
theorem run_dash_config (unseeded : Random.Stream) (log : Log) {c : Command}
    {path reason : String} (hpath : c.path? .config = some path)
    (hdash : i.file "-" = .error reason) :
    (response (run unseeded i log (c.withPath "-" .config)).result).member? "code" =
      some (.str "AERO_CLI_CONFIG_ERROR") := by
  rw [member?_code_eq_some_iff]
  have hload : ∃ f, loadConfig i log (some "-") = (.error (.config f), log) := by
    rw [loadConfig, hdash]
    exact ⟨_, rfl⟩
  obtain ⟨f, hload⟩ := hload
  cases c with
  | apply => exact ⟨_, by rw [Command.withPath, run, hload], rfl⟩
  | validate => exact ⟨_, by rw [Command.withPath, run, hload], rfl⟩
  | operators => nomatch hpath

/-- A command that names only files is compared with the same command where one option names a
dash and the text of its file is on the standard input.  For an input other than the configuration
the answers are the same but for the message.  For the configuration the standard input is not
looked at, and without a file named by a dash the answers are the same only if the configuration
in the file, or another input, is refused with the same code. -/
theorem run_dash {c : Command} {o : InputOption} {path text : String} (unseeded : Random.Stream)
    (log : Log) (file : String → Except String String) (standard : Except String String)
    (hc : c.usesStandard = false)
    (hpath : c.path? o = some path) (hfile : file path = .ok text) :
    (o ≠ .config →
      SameAnswer (run unseeded ⟨file, standard⟩ log c)
        (run unseeded ⟨file, .ok text⟩ log (c.withPath "-" o))) ∧
    (o = .config →
      SameAnswer (run unseeded ⟨file, standard⟩ log (c.withPath "-" o))
        (run unseeded ⟨file, .ok text⟩ log (c.withPath "-" o)) ∧
      ∀ reason, file "-" = .error reason →
        (SameAnswer (run unseeded ⟨file, standard⟩ log c)
            (run unseeded ⟨file, .ok text⟩ log (c.withPath "-" o)) ↔
          (response (run unseeded ⟨file, standard⟩ log c).result).member? "code" =
            some (.str "AERO_CLI_CONFIG_ERROR"))) := by
  refine ⟨fun ho => run_dash_document hc hpath ho ⟨rfl, hfile, rfl⟩, ?_⟩
  rintro rfl
  refine ⟨run_files (by rw [Command.usesStandard_withPath_config, hc]) rfl, fun reason hdash => ?_⟩
  exact sameAnswer_iff_of_code (run_dash_config unseeded log hpath hdash)

/-- A directory in which every file holds an empty object, and none is named by a dash. -/
def emptyObjects (path : String) : Except String String :=
  if path = "-" then .error "No such file or directory (os error 2)" else .ok "{}"

/-- Rules from the standard input. -/
theorem run_dash_rules :
    (Command.apply "record" "update" (some "rules") none none).usesStandard = false ∧
      SameAnswer
        (run (.ofSeed 0) ⟨emptyObjects, .ok ""⟩ (.start .info)
          (.apply "record" "update" (some "rules") none none))
        (run (.ofSeed 0) ⟨emptyObjects, .ok "{}"⟩ (.start .info)
          (.apply "record" "update" (some "-") none none)) := by
  have hfiles :
      (Command.apply "record" "update" (some "rules") none none).usesStandard = false := by decide
  have hsame := run_dash (o := .rules) (.ofSeed 0) (.start .info) emptyObjects (.ok "") hfiles
    rfl rfl
  exact ⟨hfiles, hsame.1 (by decide)⟩

/-- An empty configuration is accepted from a file, and a dash in its place is refused. -/
theorem run_dash_empty_configuration :
    emptyObjects "config" = .ok "{}" ∧
      ¬SameAnswer
        (run (.ofSeed 0) ⟨emptyObjects, .ok ""⟩ (.start .info)
          (.validate "n" "1" "rules" (some "config")))
        (run (.ofSeed 0) ⟨emptyObjects, .ok "{}"⟩ (.start .info)
          (.validate "n" "1" "rules" (some "-"))) := by
  refine ⟨rfl, fun hsame => ?_⟩
  have hfile : (response (run (.ofSeed 0) ⟨emptyObjects, .ok ""⟩ (.start .info)
      (.validate "n" "1" "rules" (some "config"))).result).member? "status" =
        some (.str "ok") := rfl
  have hdash : (response (run (.ofSeed 0) ⟨emptyObjects, .ok "{}"⟩ (.start .info)
      (.validate "n" "1" "rules" (some "-"))).result).member? "status" =
        some (.str "error") := rfl
  have hstatus := hsame "status" (by decide)
  rw [hfile, hdash] at hstatus
  exact absurd (Value.str.inj (Option.some.inj hstatus)) (by decide)

end CommandLine
end Amend
