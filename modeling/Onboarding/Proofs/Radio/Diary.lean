import Onboarding.Proofs.Logs
import Onboarding.Radio.Basic

/-!
# Radios with a diary

`DiaryRadio ρ` is the radio `ρ` with a diary of the answers that depend on what it is doing: how its
scans ended, and whether it joined a lost network again. It answers as the radio itself does.

Whoever forgets the networks that were scanned may note that as well. The diary then tells which
networks a cache has to serve: those of the last scan that succeeded, unless they were forgotten
(`DiaryNote.Latest`).

## Main results

* `DiaryNote.latest_found`, `DiaryNote.latest_unfound`, `DiaryNote.not_latest_forgotten`: which
  networks are the latest after one more note.
-/

namespace Onboarding

/-- Whether a scan succeeded. -/
def ScanReply.isFound : ScanReply → Bool
  | found _ => true
  | failed _ | pending => false

/-- A note in a radio's diary. -/
inductive DiaryNote where
  | scanned (reply : ScanReply)
  | rejoined (result : Except RadioError Unit)
  /-- The networks scanned so far were forgotten. -/
  | forgotten
  deriving DecidableEq

namespace DiaryNote

/-- Whether networks that were scanned before are served no longer. -/
def supersedes : DiaryNote → Bool
  | scanned reply => reply.isFound
  | rejoined _ => false
  | forgotten => true

/-- Whether the radio refused a call because it was not doing anything. -/
def isNotStarted : DiaryNote → Bool
  | scanned (.failed e) => e = .notStarted
  | rejoined (.error e) => e = .notStarted
  | _ => false

/-- The networks are those of the last scan that succeeded, and they were not forgotten since. -/
def Latest (networks : List Network) (diary : List DiaryNote) : Prop :=
  Pending (fun x => x = scanned (.found networks)) supersedes diary

variable {diary : List DiaryNote} {networks : List Network}

theorem not_latest_nil : ¬Latest networks [] :=
  not_pending_nil

/-- A scan that succeeds finds the latest networks. -/
theorem latest_found {found : List Network} :
    Latest networks (diary ++ [scanned (.found found)]) ↔ networks = found := by
  rw [Latest, pending_concat]
  simp [supersedes, ScanReply.isFound, eq_comm]

/-- A scan that does not succeed leaves the latest networks what they were. -/
theorem latest_unfound {reply : ScanReply} (h : reply.isFound = false) :
    Latest networks (diary ++ [scanned reply]) ↔ Latest networks diary := by
  have hreply : reply ≠ .found networks := by
    rintro rfl
    simp [ScanReply.isFound] at h
  rw [Latest, pending_concat]
  simp [supersedes, h, hreply, Latest]

/-- Of networks that were forgotten none are the latest. -/
theorem not_latest_forgotten : ¬Latest networks (diary ++ [forgotten]) := by
  rw [Latest, pending_concat]
  simp [supersedes]

end DiaryNote

/-- A radio with its diary, oldest note first. -/
structure DiaryRadio (ρ : Type) where
  radio : ρ
  diary : List DiaryNote := []

/-- A radio's answer beside a diary. -/
def RadioAnswer.beside {ρ : Type} (a : RadioAnswer ρ) (diary : List DiaryNote) :
    RadioAnswer (DiaryRadio ρ) where
  radio := ⟨a.radio, diary⟩
  result := a.result
  events := a.events

/-- Writes a note. -/
def DiaryRadio.note {ρ : Type} (r : DiaryRadio ρ) (x : DiaryNote) : DiaryRadio ρ :=
  { r with diary := r.diary ++ [x] }

instance {ρ : Type} [Radio ρ] : Radio (DiaryRadio ρ) where
  scan r :=
    (⟨(Radio.scan r.radio).1, r.diary ++ [.scanned (Radio.scan r.radio).2]⟩,
      (Radio.scan r.radio).2)
  startAccessPoint a r := (Radio.startAccessPoint a r.radio).beside r.diary
  join c r := (Radio.join c r.radio).beside r.diary
  rejoin r :=
    (Radio.rejoin r.radio).beside (r.diary ++ [.rejoined (Radio.rejoin r.radio).result])
  stop r := (Radio.stop r.radio).beside r.diary
  startAccessPoint_events a r := Radio.startAccessPoint_events a r.radio
  stop_events r := Radio.stop_events r.radio
  join_weights c r := Radio.join_weights c r.radio
  rejoin_weights r := Radio.rejoin_weights r.radio

end Onboarding
