import GalaxyScenario.CommandLine.Options
import Mathlib.Tactic.SplitIfs

/-! What arguments say. The ways to write options are a grammar of their own here, without a state:
an argument says something by itself or names a setting whose value comes next. Whatever list of
arguments makes a run is written in these ways, and each option of the run is what one of the
arguments says. -/
namespace GalaxyScenario.CommandLine

inductive Given where
  | setting (setting : Setting) (value : String)
  | switch (switch : Switch)
  | map (path : String)
  deriving DecidableEq

def Setting.longName : Setting → String
  | .output => "output"
  | .config => "config"
  | .name => "name"
  | .priority => "priority"

def Switch.longName : Switch → String
  | .fallbackHomes => "fallback-home-stars"
  | .check => "check"
  | .verbose => "verbose"

/-- An argument that is no option: a single dash, or one that does not begin with a dash. -/
def Plain (argument : String) : Prop := argument = "-" ∨ argument.toList.head? ≠ some '-'

/-- A value that can follow a short option at once, without an equals sign. -/
def Attached (value : String) : Prop := value ≠ "" ∧ value.toList.head? ≠ some '='

/-- Short options up to the one for the output. -/
def verboseTimes (n : Nat) : String := "-" ++ String.ofList (List.replicate n 'v')

/-- What one argument says by itself, and the setting whose value comes next. -/
inductive Argument : String → List Given → Option Setting → Prop
  | map {path : String} (h : Plain path) : Argument path [.map path] none
  | joined (setting : Setting) (value : String) :
      Argument ("--" ++ setting.longName ++ "=" ++ value) [.setting setting value] none
  | parted (setting : Setting) : Argument ("--" ++ setting.longName) [] (some setting)
  | switch (switch : Switch) : Argument ("--" ++ switch.longName) [.switch switch] none
  | verbose (n : Nat) (h : n ≠ 0) :
      Argument (verboseTimes n) (List.replicate n (.switch .verbose)) none
  | outputJoined (n : Nat) {value : String} (h : Attached value) :
      Argument (verboseTimes n ++ "o" ++ value)
        (List.replicate n (.switch .verbose) ++ [.setting .output value]) none
  | outputEquals (n : Nat) (value : String) :
      Argument (verboseTimes n ++ "o=" ++ value)
        (List.replicate n (.switch .verbose) ++ [.setting .output value]) none
  | outputParted (n : Nat) :
      Argument (verboseTimes n ++ "o") (List.replicate n (.switch .verbose)) (some .output)

/-- What arguments say from left to right. Two dashes end the options. -/
inductive Says : List String → List Given → Prop
  | nothing : Says [] []
  | ended : Says ["--"] []
  | endedBefore (path : String) : Says ["--", path] [.map path]
  | alone {argument : String} {said given : List Given} {rest : List String}
      (h : Argument argument said none) (hrest : Says rest given) :
      Says (argument :: rest) (said ++ given)
  | withValue {argument value : String} {said given : List Given} {rest : List String}
      {setting : Setting} (h : Argument argument said (some setting)) (hvalue : Plain value)
      (hrest : Says rest given) :
      Says (argument :: value :: rest) (said ++ .setting setting value :: given)

/-- Each option of a run is what was given for it. -/
structure Options.SetBy (o : Options) (given : List Given) : Prop where
  map : ∀ path, path = o.map ↔ .map path ∈ given
  output : ∀ path, o.output = some path ↔ .setting .output path ∈ given
  config : ∀ path, o.config = some path ↔ .setting .config path ∈ given
  name : ∀ name, o.name = some name ↔ .setting .name name ∈ given
  priority : ∀ n, o.priority = some n ↔
    ∃ text, .setting .priority text ∈ given ∧ priority? text = some n
  fallbackHomes : o.fallbackHomes = true ↔ .switch .fallbackHomes ∈ given
  check : o.check = true ↔ .switch .check ∈ given
  verbose : o.verbose = true ↔ .switch .verbose ∈ given

namespace Reading

variable {r r' : Reading}

/-- What has been read is what was read before and what was given since. -/
structure Adds (r : Reading) (given : List Given) (r' : Reading) : Prop where
  map : ∀ path, r'.map = some path ↔ r.map = some path ∨ .map path ∈ given
  output : ∀ path, r'.options.output = some path ↔
    r.options.output = some path ∨ .setting .output path ∈ given
  config : ∀ path, r'.options.config = some path ↔
    r.options.config = some path ∨ .setting .config path ∈ given
  name : ∀ name, r'.options.name = some name ↔
    r.options.name = some name ∨ .setting .name name ∈ given
  priority : ∀ n, r'.options.priority = some n ↔ r.options.priority = some n ∨
    ∃ text, .setting .priority text ∈ given ∧ priority? text = some n
  fallbackHomes : r'.options.fallbackHomes = true ↔
    r.options.fallbackHomes = true ∨ .switch .fallbackHomes ∈ given
  check : r'.options.check = true ↔ r.options.check = true ∨ .switch .check ∈ given
  verbose : r'.options.verbose = true ↔ r.options.verbose = true ∨ .switch .verbose ∈ given

theorem Adds.refl (r : Reading) : r.Adds [] r := by
  constructor <;> simp

theorem Adds.trans {middle : Reading} {first second : List Given} (h : r.Adds first middle)
    (h' : middle.Adds second r') : r.Adds (first ++ second) r' := by
  constructor <;> simp [or_and_right, exists_or, or_assoc, h'.map, h'.output, h'.config, h'.name,
    h'.priority, h'.fallbackHomes, h'.check, h'.verbose, h.map, h.output, h.config, h.name,
    h.priority, h.fallbackHomes, h.check, h.verbose]

/-- What is expected next does not matter for what has been read. -/
theorem Adds.congr {q q' : Reading} {given : List Given} (h : r.Adds given r')
    (hmap : q.map = r.map) (hoptions : q.options = r.options) (hmap' : q'.map = r'.map)
    (hoptions' : q'.options = r'.options) : q.Adds given q' := by
  constructor <;> simp [hmap, hoptions, hmap', hoptions', h.map, h.output, h.config, h.name,
    h.priority, h.fallbackHomes, h.check, h.verbose]

/-- The same, and the reading goes on as before. -/
structure Takes (r : Reading) (given : List Given) (r' : Reading) : Prop
    extends Adds r given r' where
  awaited : r'.awaited = none
  optionsEnded : r'.optionsEnded = r.optionsEnded

theorem Takes.trans {middle : Reading} {first second : List Given} (h : r.Takes first middle)
    (h' : middle.Takes second r') : r.Takes (first ++ second) r' :=
  ⟨h.toAdds.trans h'.toAdds, h'.awaited, h'.optionsEnded.trans h.optionsEnded⟩

section Taken

theorem takes_give {setting : Setting} {value : String} (h : r.give setting value = .ok r') :
    r.Takes [.setting setting value] r' := by
  cases setting with
  | output | config | name =>
    simp only [give] at h
    split_ifs at h with hbad
    cases h
    simp only [Bool.or_eq_true, not_or, Option.not_isSome_iff_eq_none] at hbad
    refine ⟨?_, rfl, rfl⟩
    constructor <;> simp [hbad, @eq_comm _ value]
  | priority =>
    simp only [give] at h
    split at h
    · rename_i hnone hpriority
      cases h
      refine ⟨?_, rfl, rfl⟩
      constructor <;> simp [hnone, hpriority]
    · cases h

variable (hawaited : r.awaited = none)

include hawaited

theorem takes_turnOn {switch : Switch} (h : r.turnOn switch = .ok r') :
    r.Takes [.switch switch] r' := by
  cases switch <;>
  · simp only [turnOn] at h
    split_ifs at h
    cases h
    refine ⟨?_, hawaited, rfl⟩
    constructor <;> simp_all

theorem takes_giveMap {path : String} (h : r.giveMap path = .ok r') : r.Takes [.map path] r' := by
  unfold giveMap at h
  split_ifs at h with hbad
  cases h
  simp only [Bool.or_eq_true, not_or, Option.not_isSome_iff_eq_none] at hbad
  refine ⟨?_, hawaited, rfl⟩
  constructor <;> simp [hbad, @eq_comm _ path]

end Taken

section Words

theorem bind_eq_ok_iff {ε α β : Type} {x : Except ε α} {f : α → Except ε β} {b : β} :
    x.bind f = .ok b ↔ ∃ a, x = .ok a ∧ f a = .ok b := by
  cases x <;> simp [Except.bind]

theorem plain_of_isOption_eq_false {argument : String} (h : isOption argument = false) :
    Plain argument := by
  unfold isOption at h
  cases hlist : argument.toList with
  | nil => exact .inr (by simp [hlist])
  | cons c rest =>
    by_cases hdash : c = '-'
    · subst hdash
      cases rest with
      | nil => exact .inl (String.toList_inj.mp hlist)
      | cons next rest => simp [hlist] at h
    · exact .inr (by simpa [hlist] using hdash)

/-- What is read from one argument is what it says, up to a value that comes next. -/
structure Follows (r : Reading) (argument : String) (said : List Given) (r' : Reading) : Prop where
  written : Argument argument said r'.awaited
  adds : r.Adds said r'
  optionsEnded : r'.optionsEnded = r.optionsEnded

theorem Takes.follows {argument : String} {said : List Given} (h : r.Takes said r')
    (hargument : Argument argument said none) : r.Follows argument said r' :=
  ⟨h.awaited ▸ hargument, h.toAdds, h.optionsEnded⟩

/-- Short options in a row: the last one may be for the output. -/
theorem short_cases {cs : List Char} (hawaited : r.awaited = none) (h : r.short cs = .ok r') :
    ∃ n next, r.Takes (List.replicate n (.switch .verbose)) next ∧
      (cs = List.replicate n 'v' ∧ r' = next ∨
        cs = List.replicate n 'v' ++ ['o'] ∧ r' = { next with awaited := some .output } ∨
        ∃ value, (Attached (String.ofList value) ∧ cs = List.replicate n 'v' ++ 'o' :: value ∨
            cs = List.replicate n 'v' ++ 'o' :: '=' :: value) ∧
          next.give .output (String.ofList value) = .ok r') := by
  have hnone : r.Takes (List.replicate 0 (.switch .verbose)) r := ⟨.refl r, hawaited, rfl⟩
  induction cs generalizing r with
  | nil => exact ⟨0, r, hnone, .inl ⟨rfl, (Except.ok.inj h).symm⟩⟩
  | cons c rest ih =>
    unfold short at h
    split at h
    · rename_i hnil
      cases hnil
    · rename_i rest' hcons
      cases hcons
      obtain ⟨on, hon, hrest⟩ := bind_eq_ok_iff.mp h
      have hfirst := takes_turnOn hawaited hon
      obtain ⟨n, next, hnext, hcases⟩ := ih hfirst.awaited hrest ⟨.refl on, hfirst.awaited, rfl⟩
      refine ⟨n + 1, next, hfirst.trans hnext, ?_⟩
      simpa [List.replicate_succ] using hcases
    · rename_i rest' hcons
      cases hcons
      refine ⟨0, r, hnone, .inr ?_⟩
      split at h
      · exact .inl ⟨rfl, (Except.ok.inj h).symm⟩
      · exact .inr ⟨_, .inr rfl, h⟩
      · rename_i hne hequals
        have hattached : Attached (String.ofList rest) := by
          cases rest with
          | nil => exact (hne rfl).elim
          | cons c value =>
            refine ⟨by simp, ?_⟩
            rw [String.toList_ofList, List.head?_cons, ne_eq, Option.some_inj]
            rintro rfl
            exact hequals value rfl
        exact .inr ⟨_, .inl ⟨hattached, rfl⟩, h⟩
    · cases h
    · cases h
    · cases h

theorem exists_follows_short {cs : List Char} (hawaited : r.awaited = none) (hne : cs ≠ [])
    (h : r.short cs = .ok r') : ∃ said, r.Follows ("-" ++ String.ofList cs) said r' := by
  obtain ⟨n, next, hnext, hcases⟩ := short_cases hawaited h
  rcases hcases with ⟨rfl, rfl⟩ | ⟨rfl, rfl⟩ | ⟨value, hvalue, hgive⟩
  · exact ⟨_, hnext.follows (.verbose n (by rintro rfl; exact hne rfl))⟩
  · have htext : "-" ++ String.ofList (List.replicate n 'v' ++ ['o']) = verboseTimes n ++ "o" := by
      simp [verboseTimes, ← String.toList_inj]
    exact ⟨_, htext ▸ Argument.outputParted n, hnext.toAdds.congr rfl rfl rfl rfl,
      hnext.optionsEnded⟩
  · refine ⟨_, (hnext.trans (takes_give hgive)).follows ?_⟩
    rcases hvalue with ⟨hattached, rfl⟩ | rfl
    · have htext : "-" ++ String.ofList (List.replicate n 'v' ++ 'o' :: value) =
          verboseTimes n ++ "o" ++ String.ofList value := by
        simp [verboseTimes, ← String.toList_inj]
      exact htext ▸ .outputJoined n hattached
    · have htext : "-" ++ String.ofList (List.replicate n 'v' ++ 'o' :: '=' :: value) =
          verboseTimes n ++ "o=" ++ String.ofList value := by
        simp [verboseTimes, ← String.toList_inj]
      exact htext ▸ .outputEquals n _

theorem long_cases {name : String} {value : Option String} (h : r.long name value = .ok r') :
    (∃ setting : Setting, name = setting.longName ∧ r.expect setting value = .ok r') ∨
      ∃ switch : Switch, name = switch.longName ∧ value = none ∧ r.turnOn switch = .ok r' := by
  unfold long at h
  split at h
  · exact .inl ⟨.output, rfl, h⟩
  · exact .inl ⟨.config, rfl, h⟩
  · exact .inl ⟨.name, rfl, h⟩
  · exact .inl ⟨.priority, rfl, h⟩
  · exact .inr ⟨.fallbackHomes, rfl, rfl, h⟩
  · exact .inr ⟨.check, rfl, rfl, h⟩
  · exact .inr ⟨.verbose, rfl, rfl, h⟩
  · cases h
  · cases h
  · cases h

/-- One argument, other than the two dashes that end the options. -/
theorem exists_follows {argument : String} (hawaited : r.awaited = none)
    (hdashes : argument ≠ "--") (h : r.option argument = .ok r') :
    ∃ said, r.Follows argument said r' := by
  unfold option at h
  split at h
  · rename_i hlist
    exact absurd (String.toList_inj.mp hlist) hdashes
  · rename_i rest _ hlist
    have hsplit := List.takeWhile_append_dropWhile (p := (· != '=')) (l := rest)
    dsimp only at h
    split at h
    · rename_i c value hvalue
      rw [hvalue] at hsplit
      obtain rfl : c = '=' := by
        have hhead := List.head?_dropWhile_not (· != '=') rest
        rw [hvalue] at hhead
        simpa using hhead
      rcases long_cases h with ⟨setting, hname, hgive⟩ | ⟨_, -, hnone, -⟩
      · have htext : argument = "--" ++ setting.longName ++ "=" ++ String.ofList value := by
          rw [← hname, ← String.toList_inj, hlist]
          simpa using hsplit.symm
        exact ⟨_, (takes_give hgive).follows (htext ▸ .joined setting _)⟩
      · cases hnone
    · rename_i hvalue
      rw [hvalue, List.append_nil] at hsplit
      rw [hsplit] at h
      have htext : ∀ name : String, String.ofList rest = name → argument = "--" ++ name := by
        rintro name rfl
        rw [← String.toList_inj, hlist]
        simp
      rcases long_cases h with ⟨setting, hname, hexpect⟩ | ⟨switch, hname, -, hon⟩
      · obtain rfl := Except.ok.inj hexpect
        exact ⟨[], htext _ hname ▸ .parted setting, (Adds.refl r).congr rfl rfl rfl rfl, rfl⟩
      · exact ⟨_, (takes_turnOn hawaited hon).follows (htext _ hname ▸ .switch switch)⟩
  · rename_i c rest _ _ hlist
    have htext : argument = "-" ++ String.ofList (c :: rest) := by
      rw [← String.toList_inj, hlist]
      simp
    exact htext ▸ exists_follows_short hawaited (List.cons_ne_nil c rest) h
  · rename_i hother
    have hplain : Plain argument := by
      refine plain_of_isOption_eq_false ?_
      unfold isOption
      split
      · rename_i hlist
        exact absurd hlist (hother _ _)
      · rfl
    exact ⟨_, (takes_giveMap hawaited h).follows (.map hplain)⟩

end Words

/-- After two dashes there is at most a map. -/
theorem exists_says_of_ended {rest : List String} (hended : r.optionsEnded = true)
    (hawaited : r.awaited = none) (h : rest.foldlM step r = .ok r') :
    ∃ given, Says ("--" :: rest) given ∧ r.Adds given r' := by
  have hmap : ∀ (r : Reading) argument, r.optionsEnded = true →
      r.step argument = r.giveMap argument :=
    fun r argument hended => by rw [step, hended, if_pos rfl]
  cases rest with
  | nil =>
    obtain rfl := Except.ok.inj h
    exact ⟨[], .ended, .refl r⟩
  | cons path rest =>
    obtain ⟨next, hnext, hrest⟩ := bind_eq_ok_iff.mp h
    rw [hmap r path hended] at hnext
    have hmap' := takes_giveMap hawaited hnext
    cases rest with
    | nil =>
      obtain rfl := Except.ok.inj hrest
      exact ⟨[.map path], .endedBefore path, hmap'.toAdds⟩
    | cons path' rest =>
      obtain ⟨last, hlast, -⟩ := bind_eq_ok_iff.mp hrest
      rw [hmap next path' (hmap'.optionsEnded.trans hended)] at hlast
      have htwice : next.map = some path := (hmap'.map path).mpr (.inr List.mem_cons_self)
      simp [giveMap, htwice] at hlast

/-- What is read from arguments is what they say, unless they end before a value. -/
theorem exists_says {arguments : List String} {r r' : Reading} (hended : r.optionsEnded = false)
    (hawaited : r.awaited = none) (h : arguments.foldlM step r = .ok r')
    (hfinished : r'.awaited = none) : ∃ given, Says arguments given ∧ r.Adds given r' := by
  cases arguments with
  | nil =>
    obtain rfl := Except.ok.inj h
    exact ⟨[], .nothing, .refl r⟩
  | cons argument rest =>
    obtain ⟨first, hfirst, hrest⟩ := bind_eq_ok_iff.mp h
    rw [step, hended, if_neg Bool.false_ne_true, hawaited] at hfirst
    dsimp only at hfirst
    by_cases hdashes : argument = "--"
    · subst hdashes
      obtain rfl : { r with optionsEnded := true } = first := Except.ok.inj hfirst
      obtain ⟨given, hgiven, hadds⟩ :=
        exists_says_of_ended (r := { r with optionsEnded := true }) rfl hawaited hrest
      exact ⟨given, hgiven, hadds.congr rfl rfl rfl rfl⟩
    · obtain ⟨said, hfollows⟩ := exists_follows hawaited hdashes hfirst
      have hopen := hfollows.optionsEnded.trans hended
      cases hsetting : first.awaited with
      | none =>
        obtain ⟨given, hgiven, hadds⟩ := exists_says hopen hsetting hrest hfinished
        exact ⟨_, .alone (hsetting ▸ hfollows.written) hgiven, hfollows.adds.trans hadds⟩
      | some setting =>
        -- The value is the next argument, which therefore cannot be missing.
        cases rest with
        | nil =>
          obtain rfl := Except.ok.inj hrest
          rw [hfinished] at hsetting
          cases hsetting
        | cons value rest =>
          obtain ⟨second, hsecond, hrest⟩ := bind_eq_ok_iff.mp hrest
          rw [step, hopen, if_neg Bool.false_ne_true, hsetting] at hsecond
          dsimp only at hsecond
          split_ifs at hsecond with hoption
          have hvalue := takes_give hsecond
          obtain ⟨given, hgiven, hadds⟩ :=
            exists_says (hvalue.optionsEnded.trans hopen) hvalue.awaited hrest hfinished
          refine ⟨_, .withValue (hsetting ▸ hfollows.written) ?_ hgiven,
            hfollows.adds.trans (hvalue.toAdds.trans hadds)⟩
          exact plain_of_isOption_eq_false (Bool.not_eq_true _ ▸ hoption)
termination_by arguments.length

section Errors

variable {o : Options}

theorem give_ne_run (setting : Setting) (value : String) :
    r.give setting value ≠ .error (.run o) := by
  cases setting <;> simp only [give] <;> split <;> simp

theorem turnOn_ne_run (switch : Switch) : r.turnOn switch ≠ .error (.run o) := by
  cases switch <;> simp only [turnOn] <;> split <;> simp

theorem giveMap_ne_run (path : String) : r.giveMap path ≠ .error (.run o) := by
  unfold giveMap
  split <;> simp

theorem expect_ne_run (setting : Setting) (value : Option String) :
    r.expect setting value ≠ .error (.run o) := by
  cases value with
  | none => simp [expect]
  | some value => exact give_ne_run setting value

theorem long_ne_run (name : String) (value : Option String) :
    r.long name value ≠ .error (.run o) := by
  unfold long
  split
  any_goals exact expect_ne_run _ _
  any_goals exact turnOn_ne_run _
  all_goals simp

theorem short_ne_run (cs : List Char) : r.short cs ≠ .error (.run o) := by
  induction cs generalizing r with
  | nil => simp [short]
  | cons c rest ih =>
    unfold short
    split
    · simp
    · rename_i rest' hcons
      cases hcons
      cases hon : r.turnOn .verbose with
      | error i => exact fun h => turnOn_ne_run .verbose (hon.trans h)
      | ok on => exact ih
    · split
      any_goals exact expect_ne_run _ _
    all_goals simp

theorem step_ne_run (argument : String) : r.step argument ≠ .error (.run o) := by
  unfold step
  split
  · exact giveMap_ne_run argument
  · split
    · split
      · simp
      · exact give_ne_run _ argument
    · unfold option
      split
      · simp
      · dsimp only
        split
        · exact long_ne_run _ _
        · exact long_ne_run _ _
      · exact short_ne_run _
      · exact giveMap_ne_run argument

/-- Only a list of arguments that has been read to its end makes a run. -/
theorem foldlM_step_ne_run (arguments : List String) :
    arguments.foldlM step r ≠ .error (.run o) := by
  induction arguments generalizing r with
  | nil => exact fun h => nomatch h
  | cons argument rest ih =>
    rw [List.foldlM_cons]
    cases hstep : r.step argument with
    | error i => exact fun h => step_ne_run argument (hstep.trans h)
    | ok next => exact ih

end Errors

end Reading

/-- The options of a run are what its arguments say. -/
theorem exists_says_of_ofArguments {arguments : List String} {o : Options}
    (h : Invocation.ofArguments arguments = .run o) :
    ∃ given, Says arguments given ∧ o.SetBy given := by
  unfold Invocation.ofArguments at h
  split at h
  · rename_i r hread
    unfold Reading.finish at h
    split at h
    · rename_i map hawaited hmap
      obtain rfl := Invocation.run.inj h
      obtain ⟨given, hsays, hadds⟩ := Reading.exists_says rfl rfl hread hawaited
      refine ⟨given, hsays, ?_⟩
      constructor
      case map =>
        intro path
        have hpath := hadds.map path
        simpa [hmap, eq_comm] using hpath
      case output => simpa using hadds.output
      case config => simpa using hadds.config
      case name => simpa using hadds.name
      case priority => simpa using hadds.priority
      case fallbackHomes => simpa using hadds.fallbackHomes
      case check => simpa using hadds.check
      case verbose => simpa using hadds.verbose
    · cases h
  · rename_i hread
    subst h
    exact absurd hread (Reading.foldlM_step_ne_run arguments)

end GalaxyScenario.CommandLine
