import Onboarding.Settings

/-!
# The first fault of a look-up

Settings are read one after the other, and reading stops at the first value that is not allowed.
Each setting has its own fault or none (`Settings.fault?`), and what is made of a look-up without a
fault (`Settings.assembled`) can be said without errors. Reading is then one equation: the first
fault in reading order if there is one, and otherwise what was assembled. Nothing else about the
order in which the settings are read is needed.

## Main results

* `Settings.load_eq`: reading all settings reports the first fault, or assembles the values.
-/

namespace Onboarding.Settings

/-! ### One setting -/

/-- The fault of a setting whose values are read by `parse`. -/
def refusal {α : Type} (look : Lookup) (s : Setting) (parse : String → Except String α) :
    Option SettingError :=
  (look s).bind fun v =>
    match parse v with
    | .ok _ => none
    | .error shown => some ⟨s, shown⟩

/-- The value of a setting, which is the default if there is no other. -/
def valueOr {α : Type} (look : Lookup) (s : Setting) (default : α)
    (parse : String → Except String α) : α :=
  match look s with
  | none => default
  | some v =>
    match parse v with
    | .ok a => a
    | .error _ => default

/-- Stops at a fault, if there is one. -/
def unlessFault {α : Type} (fault : Option SettingError) (go : Except SettingError α) :
    Except SettingError α :=
  match fault with
  | some e => .error e
  | none => go

section

variable {α : Type} {look : Lookup} {s : Setting} {parse : String → Except String α}

/-- Reading goes on behind a setting, unless it has a fault. -/
theorem read_bind {β : Type} (default : α) (go : α → Except SettingError β) :
    (read look s default parse >>= go) =
      unlessFault (refusal look s parse) (go (valueOr look s default parse)) := by
  rw [read, refusal, valueOr]
  cases look s with
  | none => rfl
  | some v =>
      cases hparse : parse v with
      | ok a => simp only [Option.bind_some, hparse]; rfl
      | error shown => simp only [Option.bind_some, hparse]; rfl

/-- A setting has no fault exactly if its value, if there is one, can be read. -/
theorem refusal_eq_none_iff :
    refusal look s parse = none ↔ ∀ v ∈ look s, ∃ a, parse v = .ok a := by
  rw [refusal]
  cases look s with
  | none => simp
  | some v => cases hparse : parse v <;> simp [hparse]

/-- A fault is that of its setting. -/
theorem setting_of_refusal {e : SettingError} (h : refusal look s parse = some e) :
    e.setting = s := by
  obtain ⟨v, -, hv⟩ := Option.bind_eq_some_iff.mp h
  split at hv
  · simp at hv
  · obtain rfl := Option.some.inj hv
    rfl

/-- A value without a fault is the default, or what was read. -/
theorem valueOr_cases (h : refusal look s parse = none) (default : α) :
    (look s = none ∧ valueOr look s default parse = default) ∨
      ∃ v, look s = some v ∧ parse v = .ok (valueOr look s default parse) := by
  rw [refusal_eq_none_iff] at h
  rw [valueOr]
  cases hlook : look s with
  | none => exact .inl ⟨rfl, rfl⟩
  | some v =>
      obtain ⟨a, ha⟩ := h v hlook
      exact .inr ⟨v, rfl, by simp only [ha]⟩

end

/-! ### All settings -/

/-- The fault of a setting on its own, if it has one. Settings that are not listed have none,
whatever their values. -/
def fault? (look : Lookup) : Setting → Option SettingError
  | .apSsid => refusal look .apSsid parseSsid
  | .apPassword => refusal look .apPassword parsePassword
  | .apChannel => refusal look .apChannel parseChannel
  | .apMaxConnections => refusal look .apMaxConnections parseByte
  | .bindAddress => refusal look .bindAddress (parseTrimmed SocketAddress.parse?)
  | .httpWorkers => refusal look .httpWorkers parseWorkers
  | .eraseOnBoot => refusal look .eraseOnBoot (parseTrimmed flag?)
  | _ => none

/-- The first fault in reading order. -/
def firstFault? (look : Lookup) : Option SettingError :=
  Setting.all.findSome? (fault? look)

/-- What the values of a look-up say, where they have no fault. -/
def assembled (look : Lookup) : Settings :=
  let d : Settings := {}
  { d with
    accessPoint :=
      { ssid := valueOr look .apSsid d.accessPoint.ssid parseSsid
        password := valueOr look .apPassword d.accessPoint.password parsePassword
        channel := valueOr look .apChannel d.accessPoint.channel parseChannel
        maxConnections := valueOr look .apMaxConnections d.accessPoint.maxConnections parseByte }
    bindAddress := valueOr look .bindAddress d.bindAddress (parseTrimmed SocketAddress.parse?)
    httpWorkers := valueOr look .httpWorkers d.httpWorkers parseWorkers
    backendUrl := ((look .backendUrl).map withoutSlashes).getD d.backendUrl
    brokerUri := (look .brokerUri).getD d.brokerUri
    probeTarget := (look .probeTarget).getD d.probeTarget
    certificateDirectory := look .certificateDirectory
    csrPem := nonEmpty (look .csrPem)
    keyPem := nonEmpty (look .keyPem)
    eraseOnBoot := valueOr look .eraseOnBoot d.eraseOnBoot (parseTrimmed flag?)
    hostNetworks := ((look .hostNetworks).map names).getD d.hostNetworks }

theorem unlessFault_findSome_cons {α : Type} (look : Lookup) (s : Setting) (rest : List Setting)
    (go : Except SettingError α) :
    unlessFault ((s :: rest).findSome? (fault? look)) go =
      unlessFault (fault? look s) (unlessFault (rest.findSome? (fault? look)) go) := by
  rw [List.findSome?_cons]
  cases fault? look s <;> rfl

/-- **Reading all settings reports the first fault, or assembles the values.** -/
theorem load_eq (look : Lookup) :
    load look = unlessFault (firstFault? look) (.ok (assembled look)) := by
  simp only [firstFault?, Setting.all, unlessFault_findSome_cons, load, read_bind]
  rfl

/-- A fault is that of its setting. -/
theorem setting_of_fault? {look : Lookup} {s : Setting} {e : SettingError}
    (h : fault? look s = some e) : e.setting = s := by
  cases s with
  | apSsid | apPassword | apChannel | apMaxConnections | bindAddress | httpWorkers | eraseOnBoot =>
      exact setting_of_refusal h
  | backendUrl | brokerUri | probeTarget | certificateDirectory | csrPem | keyPem | hostNetworks =>
      simp [fault?] at h

/-- The first fault is that of a setting before which no setting has a fault. -/
theorem firstFault?_eq_some_iff {look : Lookup} {e : SettingError} :
    firstFault? look = some e ↔
      ∃ before after, Setting.all = before ++ e.setting :: after ∧
        (∀ t ∈ before, fault? look t = none) ∧ fault? look e.setting = some e := by
  rw [firstFault?, List.findSome?_eq_some_iff]
  constructor
  · rintro ⟨before, s, after, hall, hs, hbefore⟩
    obtain rfl := setting_of_fault? hs
    exact ⟨before, after, hall, hbefore, hs⟩
  · rintro ⟨before, after, hall, hbefore, hs⟩
    exact ⟨before, e.setting, after, hall, hs, hbefore⟩

theorem firstFault?_eq_none_iff {look : Lookup} :
    firstFault? look = none ↔ ∀ s, fault? look s = none := by
  rw [firstFault?, List.findSome?_eq_none_iff]
  exact ⟨fun h s => h s (Setting.all_complete s), fun h s _ => h s⟩

/-- Reading fails with the first fault, and succeeds with what was assembled. -/
theorem load_eq_error_iff {look : Lookup} {e : SettingError} :
    load look = .error e ↔ firstFault? look = some e := by
  rw [load_eq]
  cases firstFault? look <;> simp [unlessFault]

theorem load_eq_ok_iff {look : Lookup} {c : Settings} :
    load look = .ok c ↔ firstFault? look = none ∧ assembled look = c := by
  rw [load_eq]
  cases firstFault? look <;> simp [unlessFault]

end Onboarding.Settings
