import Rehearsal.Settings.Load

/-! The defaults pass their own check, wherever the skill is. -/
namespace Rehearsal

-- The tables are long lists once they are spelled out.
set_option maxRecDepth 100000 in
theorem Unicode.dollar_not_alphabetic : Unicode.isAlphabetic '$' = false := by
  have spelled : Unicode.alphabetic.toList = _ := String.toList_ofList
  refine Unicode.Ranges.not_contains ?_
  rw [spelled]
  decide +kernel

set_option maxRecDepth 100000 in
theorem Unicode.dollar_not_numeric : Unicode.isNumeric '$' = false := by
  have decimal : Unicode.decimalNumber.contains '$' = false := Unicode.Ranges.not_contains_ofList (by decide +kernel)
  have letter : Unicode.letterNumber.contains '$' = false := Unicode.Ranges.not_contains_ofList (by decide +kernel)
  have other : Unicode.otherNumber.contains '$' = false := Unicode.Ranges.not_contains_ofList (by decide +kernel)
  rw [Unicode.isNumeric, decimal, letter, other]
  rfl

namespace Settings

/-- The usual marker is none that could be read as part of a text. -/
theorem checked_of_dollar {s : Settings} (marker : s.marker = '$') (profile : profileFault? s.profile = none)
    (timeout : s.timeout.nanos ≠ 0)
    (oauth : ∀ o, s.oauth = some o → firstBlank (o.fields.map fun (name, v) => (name, some v)) = none) :
    s.checked = .ok s := by
  have plain : (Unicode.isAlphanumeric '$' || Text.isBlank '$') = false := by
    rw [Unicode.isAlphanumeric, Unicode.dollar_not_alphabetic, Unicode.dollar_not_numeric]
    decide
  have faultless : s.fault? = none := by
    unfold fault?
    simp only [profile, marker, plain, timeout, Bool.false_eq_true, if_false]
    cases there : s.oauth with
    | none => rfl
    | some o => simp only [oauth o there, Option.map_none]
  rw [checked, faultless]

theorem defaults_accepted (endpoint : Option String) : ({ endpoint } : Settings).checked = .ok { endpoint } := by
  have profile : profileFault? {} = none := by decide +kernel
  have timeout : defaultTimeout.nanos ≠ 0 := by decide +kernel
  exact checked_of_dollar rfl profile timeout nofun

theorem overridden_of_unset {env : Environment} (unset : ∀ name, env name = none) (s : Settings) : s.overridden env = .ok s := by
  simp [overridden, Layer.ofEnvironment, readSet, unset, withSecrets, overlaid, bind, Except.bind, pure, Except.pure]

/-- Where nothing is set, there are the defaults. -/
theorem load_of_nothing {σ : Type} {src : Sources (StateM σ)} {s s' : σ} (unset : ∀ name, src.environment name = none)
    (user : src.globalPath = none) (project : (src.find src.projectPath).run s = pure (.missing, s')) :
    (load src none).run s = pure (.ok {}, s') := by
  have files : (fileLayers src none).run s = pure (.ok [], s') := by
    simp [fileLayers, layerOf, layerAt, unset, user, project]
  rw [load, StateT.run_bind, files, pure_bind]
  have settings : (do
      let s := (← (Except.ok [] : Except Failure (List Layer))).foldl overlaid ({} : Settings)
      (← s.overridden src.environment).checked) = .ok {} := by
    simp only [bind, Except.bind, List.foldl_nil, overridden_of_unset unset, defaults_accepted none]
  exact congrArg (fun x => (pure (x, s') : Id _)) settings

end Settings
end Rehearsal
