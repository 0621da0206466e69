import GraphCourier.Proofs.Logging
import GraphCourier.Proofs.SettingsText
import GraphCourier.Proofs.SingleCalls

/-!
# One spelling for all readers

A failure policy is read in four places: by itself, in a settings file, in the
environment and on the command line. All of them know the same spellings, and
these are the texts that policies are shown as. What is no spelling to one of them is
none to the others, and then each has its own way to say no: an error that names
the text, a file that is not loaded, a variable that is passed over, and a
command line that makes no sense (`spelled_or_refused`).
-/

namespace GraphCourier

open SettingsFile

/-! ## The environment -/

/-- The variable that may override the policy. -/
def policyVariable : String := "GRAPH_DRIVER_POLICY"

/-- The environment without a variable. -/
def Environment.unset (env : Environment) (name : String) : Environment :=
  env.filter fun v => v.1 != name

/-- The same settings with another policy. -/
def Settings.withPolicy (s : Settings) (p : FailurePolicy) : Settings :=
  { s with run := { s.run with policy := p } }

section Environment

variable {env : Environment} {name other s : String}

theorem Environment.text?_unset_self : (env.unset name).text? name = none := by
  have hnone : (env.unset name).find? (fun v => v.1 == name) = none := by
    rw [unset, List.find?_filter, List.find?_eq_none]
    intro v _
    by_cases hv : v.1 = name <;> simp [hv]
  rw [text?, hnone]
  rfl

theorem Environment.text?_set_eq_unset (h : other ≠ name) :
    (env.set name s).text? other = (env.unset name).text? other := by
  rw [text?, text?, set, List.find?_cons_of_neg (by simpa using h.symm), unset]

/-- A variable for the policy changes the policy, if it is one, and nothing else. -/
theorem Settings.override_set_policy (settings : Settings) (env : Environment) (s : String) :
    settings.override (env.set policyVariable s) =
      (settings.override (env.unset policyVariable)).withPolicy
        ((FailurePolicy.ofText? s).getD settings.run.policy) := by
  have hother : ∀ name, name ≠ policyVariable →
      (env.set policyVariable s).text? name = (env.unset policyVariable).text? name :=
    fun _ h => Environment.text?_set_eq_unset h
  have hself : (env.set policyVariable s).text? "GRAPH_DRIVER_POLICY" = some s :=
    Environment.text?_set_self
  simp only [override, withPolicy, hself, Option.bind_some,
    hother "GRAPH_DRIVER_HOST" (by decide), hother "GRAPH_DRIVER_PORT" (by decide),
    hother "GRAPH_DRIVER_LOG_LEVEL" (by decide)]

/-- Without the variable the policy is what it was. -/
theorem Settings.override_unset_policy (settings : Settings) (env : Environment) :
    (settings.override (env.unset policyVariable)).withPolicy settings.run.policy =
      settings.override (env.unset policyVariable) := by
  have hself : (env.unset policyVariable).text? "GRAPH_DRIVER_POLICY" = none :=
    Environment.text?_unset_self
  simp only [override, withPolicy, hself, Option.bind_none, Option.getD_none]

theorem loadSettings_set_policy (path : String) (file : FileState) (env : Environment)
    (s : String) :
    loadSettings path file (env.set policyVariable s) = (readSettings path file).map fun settings =>
      (settings.override (env.unset policyVariable)).withPolicy
        ((FailurePolicy.ofText? s).getD settings.run.policy) :=
  congrArg (Except.map · (readSettings path file))
    (funext fun settings => settings.override_set_policy env s)

end Environment

/-! ## The command line -/

namespace CommandLine

/-- The two ways to give a run its policy. -/
def policyArguments (s : String) : List (List String) := [["--policy", s], ["--policy=" ++ s]]

theorem ofText_policy : Argument.ofText "--policy" = .long "policy" none := rfl

theorem ofText_policy_value (s : String) :
    Argument.ofText ("--policy=" ++ s) = .long "policy" (some s) := by
  have htext : ("--policy=" ++ s).toList =
      '-' :: '-' :: 'p' :: 'o' :: 'l' :: 'i' :: 'c' :: 'y' :: '=' :: s.toList := by
    rw [String.toList_append]
    rfl
  have hname : ('p' :: 'o' :: 'l' :: 'i' :: 'c' :: 'y' :: '=' :: s.toList).takeWhile (· != '=') =
      "policy".toList := by
    simp
  have hvalue : ('p' :: 'o' :: 'l' :: 'i' :: 'c' :: 'y' :: '=' :: s.toList).dropWhile (· != '=') =
      '=' :: s.toList := by
    simp
  rw [Argument.ofText, htext]
  simp only [hname, hvalue, String.ofList_toList]

theorem isValue_text (p : FailurePolicy) : isValue p.text = true := by
  cases p <;> rfl

theorem readArguments_long {shape : Shape} {d : Draft} {a name : String} {value : Option String}
    (ha : Argument.ofText a = .long name value) (hhelp : name ≠ "help") (rest : List String) :
    readArguments shape none false d (a :: rest) = (shape.option? name).bind fun option =>
      match value with
      | some v => (d.set option v).bind (readArguments shape none false · rest)
      | none => readArguments shape (some option) false d rest := by
  rw [readArguments]
  simp only [ha, Bool.false_eq_true, if_false]
  split
  · rename_i h
    cases h
  · rename_i h
    cases h
    exact absurd rfl hhelp
  · rename_i h
    cases h
    rfl
  · rename_i h
    cases h
  · rename_i h
    cases h

theorem readArguments_due (shape : Shape) (option : Setting) (d : Draft) (a : String)
    (rest : List String) :
    readArguments shape (some option) false d (a :: rest) =
      if isValue a then (d.set option a).bind (readArguments shape none false · rest) else none :=
  rfl

/-- A run takes a policy that is spelled right, and refuses any other. -/
theorem readArguments_policy {shape : Shape} (hshape : shape.takesPolicy = true) (d : Draft)
    {s : String} {option : List String} (hoption : option ∈ policyArguments s)
    (rest : List String) :
    (∀ p, FailurePolicy.ofText? s = some p → d.policy = none →
        readArguments shape none false d (option ++ rest) =
          readArguments shape none false { d with policy := some p } rest)
      ∧ (FailurePolicy.ofText? s = none →
        readArguments shape none false d (option ++ rest) = none) := by
  have htaken : shape.option? "policy" = some .policy := by
    rw [Shape.option?, if_neg (by decide), if_neg fun h => absurd h.1 (by decide),
      if_pos ⟨rfl, hshape⟩]
  have hset : ∀ p, FailurePolicy.ofText? s = some p → d.policy = none →
      d.set .policy s = some { d with policy := some p } := fun p hp hd => by
    simp [Draft.set, hp, hd]
  have hrefused : FailurePolicy.ofText? s = none → d.set .policy s = none := fun hs => by
    simp [Draft.set, hs]
  have hcases : option = ["--policy", s] ∨ option = ["--policy=" ++ s] := by
    simpa [policyArguments] using hoption
  rcases hcases with rfl | rfl
  · have hread : readArguments shape none false d (["--policy", s] ++ rest) =
        if isValue s then (d.set .policy s).bind (readArguments shape none false · rest)
        else none := by
      rw [List.cons_append, readArguments_long ofText_policy (by decide), htaken]
      exact readArguments_due shape .policy d s rest
    rw [hread]
    refine ⟨fun p hp hd => ?_, fun hs => ?_⟩
    · have hvalue : isValue s = true := FailurePolicy.ofText?_eq_some.mp hp ▸ isValue_text p
      rw [if_pos hvalue, hset p hp hd]
      rfl
    · rw [hrefused hs]
      exact ite_self none
  · have hread : readArguments shape none false d (["--policy=" ++ s] ++ rest) =
        (d.set .policy s).bind (readArguments shape none false · rest) := by
      rw [List.cons_append, readArguments_long (ofText_policy_value s) (by decide), htaken]
      rfl
    rw [hread]
    refine ⟨fun p hp hd => ?_, fun hs => ?_⟩
    · rw [hset p hp hd]
      rfl
    · rw [hrefused hs]
      rfl

/-- What a run is asked for whose policy is given. -/
theorem parse_run_policy {s : String} {option : List String} (hoption : option ∈ policyArguments s)
    (rest : List String) :
    (∀ p, FailurePolicy.ofText? s = some p →
        parse ("run" :: option) = some (.invoke ⟨none, .run none (some p)⟩))
      ∧ (FailurePolicy.ofText? s = none → parse ("run" :: (option ++ rest)) = none) := by
  have hword : Argument.ofText "run" = .word "run" := rfl
  have hline : ∀ arguments, parse ("run" :: arguments) = readCommand none "run" arguments :=
    fun arguments => readLine_word hword (by decide) none arguments
  have hread := @readArguments_policy ⟨true, true, 0, fun d => some (.run d.nodes d.policy)⟩ rfl
    .empty s option hoption
  refine ⟨fun p hp => ?_, fun hs => ?_⟩
  · have hdraft := (hread []).1 p hp rfl
    rw [List.append_nil] at hdraft
    rw [hline, readCommand]
    simp only [shape?, Option.bind_eq_bind, Option.bind_some, hdraft]
    rfl
  · rw [hline, readCommand]
    simp only [shape?, Option.bind_eq_bind, Option.bind_some, (hread rest).2 hs]
    rfl

end CommandLine

/-! ## All readers -/

namespace FailurePolicy

/-- A text is the spelling of a policy to everyone who reads policies. -/
structure Spelled (s : String) (p : FailurePolicy) : Prop where
  parse : FailurePolicy.parse s = .ok p
  json : p.json = "\"" ++ s ++ "\""
  /-- A settings file that is in order otherwise is loaded. -/
  file : ∀ {parts : List Part}, WellFormed parts → (Field.policy, .text s) ∈ given parts →
    (∀ f v, (f, v) ∈ given parts → f ≠ .policy → f.Accepts v) →
    ∃ settings : Settings, settings.run.policy = p ∧ ∀ path env,
      loadSettings path (.file (utf8 (fileText parts))) env = .ok (settings.override env)
  /-- The variable overrides the policy and nothing else. -/
  overrides : ∀ path file env, loadSettings path file (Environment.set env policyVariable s) =
    (readSettings path file).map fun settings =>
      (settings.override (env.unset policyVariable)).withPolicy p
  /-- The flag is taken, and the run has this policy. -/
  flag : ∀ option ∈ CommandLine.policyArguments s, ∀ {σ : Type} (world : Surroundings σ)
    (settings : Settings) (state : σ), world.load none = .ok settings →
      Program.start world ("run" :: option) state =
        Program.underFilter world settings.run.logLevel
          (Program.runSchedule world settings settings.run.nodes p) state

/-- A text is the spelling of no policy to anyone who reads policies. -/
structure Refused (s : String) : Prop where
  parse : FailurePolicy.parse s =
    .error ("unknown failure policy: " ++ s ++ " (expected continue or abort)")
  /-- A settings file is not loaded, whatever else there is in it. -/
  file : ∀ {parts : List Part}, WellFormed parts → (Field.policy, .text s) ∈ given parts →
    ∀ path env, loadSettings path (.file (utf8 (fileText parts))) env = .error .malformed
  /-- The variable leaves the policy of the file or the standard one as it is. -/
  overrides : ∀ path file env, loadSettings path file (Environment.set env policyVariable s) =
    (readSettings path file).map fun settings =>
      (settings.override (env.unset policyVariable)).withPolicy settings.run.policy
  /-- The variable might as well not be there. -/
  ignored : ∀ path file env, loadSettings path file (Environment.set env policyVariable s) =
    loadSettings path file (env.unset policyVariable)
  /-- The command line makes no sense, and nothing is done. -/
  flag : ∀ option ∈ CommandLine.policyArguments s, ∀ (rest : List String) {σ : Type}
    (world : Surroundings σ) (state : σ),
      Program.start world ("run" :: (option ++ rest)) state = ⟨2, [], [], none, state⟩

theorem parse_eq_ok {s : String} {p : FailurePolicy} :
    FailurePolicy.parse s = .ok p ↔ s = p.text := by
  rw [← ofText?_eq_some, parse]
  cases ofText? s with
  | none => simp
  | some q => simp

theorem spelled_text (p : FailurePolicy) : Spelled p.text p where
  parse := parse_eq_ok.mpr rfl
  json := by rw [FailurePolicy.json, documentName_eq]
  file := by
    intro parts hparts hgiven haccepted
    have hpolicy := lookup_of_mem hparts.once hgiven
    have hall : ∀ f v, (given parts).lookup f = some v → f.Accepts v := by
      intro f v hv
      by_cases hf : f = .policy
      · subst hf
        obtain rfl := Option.some.inj (hpolicy.symm.trans hv)
        exact ⟨.policy p, rfl, .plain (.policy p)⟩
      · exact haccepted f v (mem_of_lookup hv) hf
    obtain ⟨l, hl⟩ := exists_layerOf? hall
    obtain ⟨-, -, -, -, -, hread, -⟩ := layerOf?_eq_some.mp hl
    have hvalue : policy? (.text p.text) = some p := policy?_eq_some.mpr (.plain (.policy p))
    have hset : l.policy = some p := by
      rw [hpolicy, optional?, hvalue] at hread
      exact (Option.some.inj hread).symm
    refine ⟨l.settings, ?_, fun path env => ?_⟩
    · rw [Layer.settings, hset]
      rfl
    · rw [loadSettings_text, layer?_parts hparts, hl, Layer.override_settings]
  overrides path file env := by
    rw [loadSettings_set_policy, FailurePolicy.ofText?_text]
    rfl
  flag := by
    intro option hoption σ world settings state hload
    have hparse := (CommandLine.parse_run_policy hoption []).1 p (FailurePolicy.ofText?_text p)
    exact Program.start_invoke hparse hload state

theorem refused_of_ne {s : String} (h : ∀ p : FailurePolicy, s ≠ p.text) : Refused s := by
  have hnone : FailurePolicy.ofText? s = none := by
    cases hs : FailurePolicy.ofText? s with
    | none => rfl
    | some p => exact absurd (FailurePolicy.ofText?_eq_some.mp hs) (h p)
  refine ⟨?_, ?_, fun path file env => ?_, fun path file env => ?_, ?_⟩
  · rw [FailurePolicy.parse, hnone]
    rfl
  · intro parts hparts hgiven path env
    refine loadSettings_refused hparts hgiven ?_ path env
    rintro ⟨x, hx, hmeans⟩
    cases x <;> cases hx
    rcases Setting.says_policy_iff.mp hmeans with hp | ⟨_, _, hp, -⟩
    · exact h _ (Toml.Value.text.inj hp)
    · cases hp
  · rw [loadSettings_set_policy, hnone]
    rfl
  · rw [loadSettings_set_policy, hnone]
    exact congrArg (Except.map · (readSettings path file))
      (funext fun settings => settings.override_unset_policy env)
  · intro option hoption rest σ world state
    simp only [Program.start, (CommandLine.parse_run_policy hoption rest).2 hnone]

/-- Any text can be given as the policy in a settings file. -/
theorem exists_file (s : String) :
    ∃ parts, WellFormed parts ∧ given parts = [(.policy, .text s)] := by
  let block : Block := ⟨"driver", [(.policy, .text s, Toml.quoted s)]⟩
  have hbare : Toml.BareKey "driver".toList := ⟨by simp, List.all_eq_true.mp rfl⟩
  have hinOrder : block.InOrder := by
    refine ⟨hbare, fun f v t hline => ?_, fun f v t hline => ?_⟩
    all_goals cases List.mem_singleton.mp hline
    · rfl
    · exact (Toml.plainText_quoted s).valueText Toml.maxDepth
  have hwellFormed := @Block.wellFormed [block] (List.forall_mem_singleton.mpr hinOrder)
    (List.nodup_singleton _) (List.nodup_singleton _)
  exact ⟨_, hwellFormed, Block.given_blocks [block]⟩

/-- **One spelling for all readers.** A text is the spelling of a policy to all
readers, namely of the one that is shown as this text, or it is to none. And any
text can be given as the policy in a settings file. -/
theorem spelled_or_refused (s : String) :
    (∀ p : FailurePolicy, Spelled s p ↔ s = p.text)
      ∧ (Refused s ↔ ∀ p : FailurePolicy, s ≠ p.text)
      ∧ ∃ parts, WellFormed parts ∧ given parts = [(.policy, .text s)] := by
  refine ⟨fun p => ⟨fun h => ?_, ?_⟩, ⟨fun h p => ?_, fun h => ?_⟩, exists_file s⟩
  · exact parse_eq_ok.mp h.parse
  · rintro rfl
    exact spelled_text p
  · rintro rfl
    cases (parse_eq_ok.mpr rfl).symm.trans h.parse
  · exact refused_of_ne h

end FailurePolicy

end GraphCourier
