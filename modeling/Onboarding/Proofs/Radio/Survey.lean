import Onboarding.Proofs.Logs
import Onboarding.ScanCache

/-!
# Radios with a survey

`SurveyRadio ρ` is the radio `ρ` with a survey of its surroundings: when an access point was asked
for, and how each scan since then ended. It answers as the radio itself does. Scans of a session
that is over by the time they end are noted by whoever sees them end, as overdue.

A snapshot has an origin in the survey (`Snapshot.Accounted`): it is made of the first networks of
some scan that succeeded. As long as the session lasts this may be a scan that was made since the
access point was asked for; at any time it may be one that was overdue.

## Main results

* `Snapshot.Accounted.concat`, `Snapshot.Accounted.concat_of_closed`: a survey that goes on.
* `Snapshot.Accounted.store_scanned`, `Snapshot.Accounted.store_overdue`: the end of a scan.
-/

namespace Onboarding

/-- A note in a survey. -/
inductive SurveyNote where
  /-- An access point was asked for, which begins a session. -/
  | opened
  | scanned (reply : ScanReply)
  /-- A scan ended when the session that it was made for was over. -/
  | overdue (reply : ScanReply)
  deriving DecidableEq

namespace SurveyNote

/-- Whether a session begins. -/
def isOpening : SurveyNote → Bool
  | opened => true
  | scanned _ | overdue _ => false

/-- The networks were found since the last session began. -/
def Current (networks : List Network) (survey : List SurveyNote) : Prop :=
  Pending (fun x => x = scanned (.found networks)) isOpening survey

variable {networks : List Network} {survey : List SurveyNote}

theorem current_found : Current networks (survey ++ [scanned (.found networks)]) :=
  pending_concat.mpr (.inl (by simp))

/-- When a session begins nothing was found for it. -/
theorem not_current_opened : ¬Current networks (survey ++ [opened]) := by
  intro h
  rcases pending_concat.mp h with hfound | ⟨-, hopening⟩
  · simp at hfound
  · simp [isOpening] at hopening

theorem Current.concat (h : Current networks survey) {x : SurveyNote}
    (hx : x.isOpening = false) : Current networks (survey ++ [x]) :=
  pending_concat.mpr (.inr ⟨h, hx⟩)

end SurveyNote

/-! ### Snapshots -/

/-- The end of a scan leaves the snapshot as it was, or is a success that replaces it. -/
theorem ScanCache.store_cases (c : ScanCache) (reply : ScanReply) :
    (c.store reply).1.snapshot = c.snapshot ∨
      ∃ networks, reply = .found networks ∧
        (c.store reply).1.snapshot = ⟨networks.take capacity, true⟩ := by
  cases reply with
  | found networks =>
      cases hheld : c.held with
      | true => exact .inl (by simp [store, hheld])
      | false => exact .inr ⟨networks, rfl, c.snapshot_store_found hheld networks⟩
  | failed e | pending => exact .inl rfl

namespace Snapshot

/-- A snapshot holds the first networks of a scan of the survey, if it holds any: of one that was
made for the session, if there is one, or of one that was overdue. -/
def Accounted (survey : List SurveyNote) (session : Bool) (x : Snapshot) : Prop :=
  x.populated = true → ∃ networks, x = ⟨networks.take ScanCache.capacity, true⟩ ∧
    (session = true ∧ SurveyNote.Current networks survey ∨
      SurveyNote.overdue (.found networks) ∈ survey)

namespace Accounted

variable {survey : List SurveyNote} {session : Bool} {x : Snapshot} {note : SurveyNote}

/-- Nothing has to be said of an empty snapshot. -/
theorem empty (survey : List SurveyNote) (session : Bool) : Accounted survey session {} := by
  intro hpopulated
  simp at hpopulated

/-- A session takes over what it finds. -/
theorem of_closed (h : Accounted survey false x) (session : Bool) :
    Accounted survey session x := by
  intro hpopulated
  obtain ⟨networks, hx, hcurrent | hoverdue⟩ := h hpopulated
  · simp at hcurrent
  · exact ⟨networks, hx, .inr hoverdue⟩

/-- Within a session a survey goes on without changing the origin of the snapshot. -/
theorem concat (h : Accounted survey session x) (hnote : note.isOpening = false) :
    Accounted (survey ++ [note]) session x := by
  intro hpopulated
  obtain ⟨networks, hx, ⟨hsession, hcurrent⟩ | hoverdue⟩ := h hpopulated
  · exact ⟨networks, hx, .inl ⟨hsession, hcurrent.concat hnote⟩⟩
  · exact ⟨networks, hx, .inr (List.mem_append_left _ hoverdue)⟩

/-- Without a session it goes on in any way. -/
theorem concat_of_closed (h : Accounted survey false x) (note : SurveyNote) :
    Accounted (survey ++ [note]) false x := by
  intro hpopulated
  obtain ⟨networks, hx, hcurrent | hoverdue⟩ := h hpopulated
  · simp at hcurrent
  · exact ⟨networks, hx, .inr (List.mem_append_left _ hoverdue)⟩

/-- The end of a scan that the session waits for leaves a snapshot of it, or the one before. -/
theorem store_scanned {cache : ScanCache} (h : Accounted survey session cache.snapshot)
    (hsession : session = true) (reply : ScanReply) :
    Accounted (survey ++ [.scanned reply]) session (cache.store reply).1.snapshot := by
  rcases cache.store_cases reply with hsame | ⟨networks, rfl, hstored⟩
  · rw [hsame]
    exact h.concat rfl
  · rw [hstored]
    exact fun _ => ⟨networks, rfl, .inl ⟨hsession, SurveyNote.current_found⟩⟩

/-- So does the end of an overdue scan, whether there is a session or not. -/
theorem store_overdue {cache : ScanCache} (h : Accounted survey session cache.snapshot)
    (reply : ScanReply) :
    Accounted (survey ++ [.overdue reply]) session (cache.store reply).1.snapshot := by
  rcases cache.store_cases reply with hsame | ⟨networks, rfl, hstored⟩
  · rw [hsame]
    exact h.concat rfl
  · rw [hstored]
    exact fun _ => ⟨networks, rfl, .inr (by simp)⟩

end Accounted

end Snapshot

/-! ### Surveys -/

/-- A radio with its survey, oldest note first. -/
structure SurveyRadio (ρ : Type) where
  radio : ρ
  survey : List SurveyNote := []

/-- Writes a note. -/
def SurveyRadio.note {ρ : Type} (r : SurveyRadio ρ) (x : SurveyNote) : SurveyRadio ρ :=
  { r with survey := r.survey ++ [x] }

/-- A radio's answer beside a survey. -/
def RadioAnswer.surveyed {ρ : Type} (a : RadioAnswer ρ) (survey : List SurveyNote) :
    RadioAnswer (SurveyRadio ρ) where
  radio := ⟨a.radio, survey⟩
  result := a.result
  events := a.events

instance {ρ : Type} [Radio ρ] : Radio (SurveyRadio ρ) where
  scan r :=
    (⟨(Radio.scan r.radio).1, r.survey ++ [.scanned (Radio.scan r.radio).2]⟩,
      (Radio.scan r.radio).2)
  startAccessPoint a r :=
    (Radio.startAccessPoint a r.radio).surveyed (r.survey ++ [.opened])
  join c r := (Radio.join c r.radio).surveyed r.survey
  rejoin r := (Radio.rejoin r.radio).surveyed r.survey
  stop r := (Radio.stop r.radio).surveyed r.survey
  startAccessPoint_events a r := Radio.startAccessPoint_events a r.radio
  stop_events r := Radio.stop_events r.radio
  join_weights c r := Radio.join_weights c r.radio
  rejoin_weights r := Radio.rejoin_weights r.radio

end Onboarding
