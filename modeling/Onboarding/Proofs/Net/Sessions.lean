import Onboarding.Net.Tcp
import Onboarding.Proofs.Logs

/-!
# When a session counts as connected

A client that holds a connection to its broker looks at the next byte to tell whether the broker is
still there, and never takes a byte away. So what it says depends on all that has happened since the
session began: while nothing has come, a connection that the broker closed is noticed as closed; a
byte that came before stays where it is and is found by every look, however long the broker is gone.
Nothing that happens before a session begins or after it ends makes any difference.

The history of a client (`Wire.history`) has every event with its answer. A session is what happened
since a start that succeeded on a client without a session (`Wire.IsSession`).

## Main results

* `Wire.exists_connection_iff`: a client holds a connection from a start that succeeds to a stop.
* `Wire.connection_eq_some_iff`: what the connection has seen is what happened in the session.
* `Wire.isConnected_iff_heard`: a session is connected until the broker closes it, and for ever if a
  byte came before.
-/

namespace Onboarding

/-- What is done with a client, or happens at the other end of its connections. -/
inductive WireEvent where
  | start
  | stop
  /-- The broker sends a byte on every connection that it holds. -/
  | peerSend
  /-- The broker closes every connection that it holds. -/
  | peerClose
  /-- Nothing listens any more; connections stay open. -/
  | listenerClose
  deriving Repr, DecidableEq

/-- A client and the network around it. -/
structure Wire where
  session : TcpSession
  around : Surroundings

/-- An event with the answer to it. -/
abbrev WireNote := WireEvent × Except HostError Unit

namespace Connection

/-- The connection after an event that does not end it. -/
def hear (c : Connection) : WireEvent → Connection
  | .peerSend => c.receive
  | .peerClose => c.hangUp
  | .start | .stop | .listenerClose => c

/-- A new connection after events that do not end it. -/
def heard (es : List WireEvent) : Connection :=
  es.foldl hear {}

theorem heard_concat (es : List WireEvent) (e : WireEvent) :
    heard (es ++ [e]) = (heard es).hear e := by
  simp [heard]

/-- A byte is there exactly if one came before the first close. -/
def SentFirst (es : List WireEvent) : Prop :=
  ∃ before after, es = before ++ .peerSend :: after ∧ .peerClose ∉ before

theorem not_sentFirst_nil : ¬SentFirst [] := by
  rintro ⟨before, after, h, -⟩
  simp at h

/-- One more event is the first byte exactly if it is a byte and nothing was closed before. -/
theorem sentFirst_concat (es : List WireEvent) (e : WireEvent) :
    SentFirst (es ++ [e]) ↔ SentFirst es ∨ e = .peerSend ∧ .peerClose ∉ es := by
  constructor
  · rintro ⟨before, after, heq, hbefore⟩
    rcases List.eq_nil_or_concat after with rfl | ⟨rest, f, rfl⟩
    · obtain ⟨rfl, hlast⟩ := List.append_inj' heq rfl
      exact .inr ⟨List.singleton_inj.mp hlast, hbefore⟩
    · have hsplit : es ++ [e] = (before ++ .peerSend :: rest) ++ [f] := by simpa using heq
      exact .inl ⟨before, rest, (List.append_inj' hsplit rfl).1, hbefore⟩
  · rintro (⟨before, after, rfl, hbefore⟩ | ⟨rfl, hes⟩)
    · exact ⟨before, after ++ [e], by simp, hbefore⟩
    · exact ⟨es, [], rfl, hes⟩

/-- What comes after a close is never the first byte. -/
theorem sentFirst_append_close (es rest : List WireEvent) :
    SentFirst (es ++ .peerClose :: rest) ↔ SentFirst es := by
  induction rest using List.reverseRecOn with
  | nil => simp [sentFirst_concat]
  | append_singleton rest e ih =>
      rw [← List.cons_append, ← List.append_assoc, sentFirst_concat, ih]
      simp

theorem closedByPeer_heard (es : List WireEvent) :
    (heard es).closedByPeer = true ↔ .peerClose ∈ es := by
  induction es using List.reverseRecOn with
  | nil => simp [heard]
  | append_singleton es e ih =>
      rw [heard_concat, List.mem_append, List.mem_singleton, ← ih]
      cases e <;> simp [hear, receive, hangUp]

theorem unread_heard (es : List WireEvent) : (heard es).unread = true ↔ SentFirst es := by
  induction es using List.reverseRecOn with
  | nil => simpa [heard] using not_sentFirst_nil
  | append_singleton es e ih =>
      rw [heard_concat, sentFirst_concat, ← ih, ← closedByPeer_heard]
      cases e <;> simp [hear, receive, hangUp]

/-- **A connection is alive** unless the broker has closed it, or if a byte came before that. -/
theorem isAlive_heard (es : List WireEvent) :
    (heard es).isAlive = true ↔ .peerClose ∉ es ∨ SentFirst es := by
  rw [← closedByPeer_heard, ← unread_heard, isAlive, Bool.or_eq_true, Bool.not_eq_true', or_comm,
    Bool.not_eq_true]

end Connection

namespace Wire

variable {w : Wire} {es : List WireEvent}

/-- The wire after an event, and the answer. -/
def step (w : Wire) : WireEvent → Wire × Except HostError Unit
  | .start => ({ w with session := (w.session.start w.around).1 }, (w.session.start w.around).2)
  | .stop => ({ w with session := w.session.stop }, .ok ())
  | .peerSend => ({ w with session := w.session.peer Connection.receive }, .ok ())
  | .peerClose => ({ w with session := w.session.peer Connection.hangUp }, .ok ())
  | .listenerClose => ({ w with around := { w.around with listeners := [] } }, .ok ())

/-- The wire after events. -/
def run (w : Wire) (es : List WireEvent) : Wire :=
  es.foldl (fun w e => (w.step e).1) w

/-- Events with their answers. -/
def history (w : Wire) : List WireEvent → List WireNote
  | [] => []
  | e :: es => (e, (w.step e).2) :: (w.step e).1.history es

theorem run_concat (w : Wire) (es : List WireEvent) (e : WireEvent) :
    w.run (es ++ [e]) = ((w.run es).step e).1 := by
  simp [run]

theorem map_fst_history (w : Wire) (es : List WireEvent) : (w.history es).map Prod.fst = es := by
  induction es generalizing w with
  | nil => rfl
  | cons e es ih => rw [history, List.map_cons, ih]

theorem history_append (w : Wire) (es fs : List WireEvent) :
    w.history (es ++ fs) = w.history es ++ (w.run es).history fs := by
  induction es generalizing w with
  | nil => rfl
  | cons e es ih =>
      rw [List.cons_append, history, ih, history]
      rfl

theorem history_concat (w : Wire) (es : List WireEvent) (e : WireEvent) :
    w.history (es ++ [e]) = w.history es ++ [(e, ((w.run es).step e).2)] :=
  w.history_append es [e]

/-! ### Sessions -/

/-- A start that succeeded. -/
def opens (n : WireNote) : Bool :=
  n.1 = .start && n.2.isOk

def closes (n : WireNote) : Bool :=
  n.1 = .stop

/-- What happened since the start that began the session of a history. A client that has a session
answers another start as one that succeeded, and this one begins nothing. -/
def IsSession (log later : List WireNote) : Prop :=
  ∃ earlier begun, log = earlier ++ begun :: later ∧ opens begun = true ∧
    ¬Pending opens closes earlier ∧ ∀ n ∈ later, closes n = false

theorem not_isSession_nil (later : List WireNote) : ¬IsSession [] later := by
  rintro ⟨earlier, begun, h, -⟩
  simp at h

/-- The last entry of a history begins a session, or goes on with the one that there was. -/
theorem isSession_concat {log later : List WireNote} {n : WireNote} :
    IsSession (log ++ [n]) later ↔
      (later = [] ∧ opens n = true ∧ ¬Pending opens closes log) ∨
        ∃ l, later = l ++ [n] ∧ IsSession log l ∧ closes n = false := by
  constructor
  · rintro ⟨earlier, begun, heq, hopens, hearlier, hlater⟩
    rcases List.eq_nil_or_concat later with rfl | ⟨l, m, rfl⟩
    · obtain ⟨rfl, hlast⟩ := List.append_inj' heq rfl
      obtain rfl : n = begun := List.singleton_inj.mp hlast
      exact .inl ⟨rfl, hopens, hearlier⟩
    · have hsplit : log ++ [n] = (earlier ++ begun :: l) ++ [m] := by simpa using heq
      obtain ⟨rfl, hlast⟩ := List.append_inj' hsplit rfl
      obtain rfl : n = m := List.singleton_inj.mp hlast
      simp only [List.concat_eq_append, List.forall_mem_append, List.forall_mem_singleton] at hlater
      exact .inr ⟨l, List.concat_eq_append, ⟨earlier, begun, rfl, hopens, hearlier, hlater.1⟩,
        hlater.2⟩
  · rintro (⟨rfl, hopens, hlog⟩ | ⟨l, rfl, ⟨earlier, begun, rfl, hopens, hearlier, hl⟩, hn⟩)
    · exact ⟨log, n, rfl, hopens, hlog, by simp⟩
    · refine ⟨earlier, begun, by simp, hopens, hearlier, ?_⟩
      exact List.forall_mem_append.mpr ⟨hl, List.forall_mem_singleton.mpr hn⟩

/-- Events other than a stop end no session. -/
theorem closes_of_mem_history (w : Wire) {es : List WireEvent} (h : .stop ∉ es) :
    ∀ n ∈ w.history es, closes n = false := by
  intro n hn
  have hmem : n.1 ∈ es := by
    rw [← map_fst_history w es]
    exact List.mem_map_of_mem hn
  have hne : n.1 ≠ .stop := fun heq => h (heq ▸ hmem)
  simp [closes, hne]

theorem IsSession.append {log later added : List WireNote} (h : IsSession log later)
    (hadded : ∀ n ∈ added, closes n = false) : IsSession (log ++ added) (later ++ added) := by
  obtain ⟨earlier, begun, rfl, hopens, hearlier, hlater⟩ := h
  exact ⟨earlier, begun, by simp, hopens, hearlier, List.forall_mem_append.mpr ⟨hlater, hadded⟩⟩

/-! ### What a connection has seen -/

/-- A client that holds a connection keeps it when it is started. -/
theorem step_start_of_some {c : Connection} (h : w.session.connection = some c) :
    w.step .start = (w, .ok ()) := by
  simp [step, TcpSession.start, h]

/-- A client without a connection has a new one after a start that succeeds, and is left as it was
by one that fails. -/
theorem step_start_of_none (h : w.session.connection = none) :
    ((w.step .start).2 = .ok () ∧ (w.step .start).1.session.connection = some {}) ∨
      ∃ e, w.step .start = (w, .error e) := by
  simp only [step, TcpSession.start, h]
  split
  · exact .inl ⟨rfl, rfl⟩
  · exact .inr ⟨_, rfl⟩

/-- **The connection after an event** is a new one, or the one that was there after it has heard the
event. -/
theorem connection_step_eq_some_iff (w : Wire) (e : WireEvent) (c : Connection) :
    (w.step e).1.session.connection = some c ↔
      (opens (e, (w.step e).2) = true ∧ w.session.connection = none ∧ {} = c) ∨
        closes (e, (w.step e).2) = false ∧ ∃ d, w.session.connection = some d ∧ d.hear e = c := by
  cases e with
  | start =>
      cases hd : w.session.connection with
      | some d => simp [step_start_of_some hd, hd, closes, Connection.hear]
      | none =>
          rcases step_start_of_none hd with ⟨hok, hnew⟩ | ⟨e, hfailed⟩
          · simp [hok, hnew, opens, Except.isOk, Except.toBool]
          · simp [hfailed, hd, opens, Except.isOk, Except.toBool]
  | stop => simp [step, TcpSession.stop, opens, closes]
  | peerSend | peerClose => simp [step, TcpSession.peer, opens, closes, Connection.hear]
  | listenerClose => simp [step, opens, closes, Connection.hear]

theorem closes_of_opens {n : WireNote} (h : opens n = true) : closes n = false := by
  obtain ⟨e, answer⟩ := n
  cases e <;> simp [opens, closes] at h ⊢

/-- **A client holds a connection** from a start that succeeds to a stop. -/
theorem exists_connection_iff (h : w.session.connection = none) (es : List WireEvent) :
    (∃ c, (w.run es).session.connection = some c) ↔ Pending opens closes (w.history es) := by
  induction es using List.reverseRecOn with
  | nil => simpa [run, history, h] using not_pending_nil
  | append_singleton es e ih =>
      simp only [run_concat, history_concat, pending_concat, ← ih, connection_step_eq_some_iff]
      constructor
      · rintro ⟨c, ⟨hopens, -, -⟩ | ⟨hcloses, d, hd, -⟩⟩
        · exact .inl hopens
        · exact .inr ⟨⟨d, hd⟩, hcloses⟩
      · rintro (hopens | ⟨⟨d, hd⟩, hcloses⟩)
        · cases hd : (w.run es).session.connection with
          | none => exact ⟨{}, .inl ⟨hopens, rfl, rfl⟩⟩
          | some d => exact ⟨_, .inr ⟨closes_of_opens hopens, d, rfl, rfl⟩⟩
        · exact ⟨_, .inr ⟨hcloses, d, hd, rfl⟩⟩

/-- **What a connection has seen** is what happened in its session. -/
theorem connection_eq_some_iff (h : w.session.connection = none) (es : List WireEvent)
    (c : Connection) : (w.run es).session.connection = some c ↔
      ∃ later, IsSession (w.history es) later ∧ Connection.heard (later.map Prod.fst) = c := by
  induction es using List.reverseRecOn generalizing c with
  | nil => simp [run, history, h, not_isSession_nil]
  | append_singleton es e ih =>
      have hnone : (w.run es).session.connection = none ↔
          ¬Pending opens closes (w.history es) := by
        rw [← exists_connection_iff h, Option.eq_none_iff_forall_ne_some, not_exists]
      simp only [run_concat, history_concat, isSession_concat, connection_step_eq_some_iff, ih,
        hnone]
      constructor
      · rintro (⟨hopens, hlog, rfl⟩ | ⟨hcloses, d, ⟨later, hlater, rfl⟩, rfl⟩)
        · exact ⟨[], .inl ⟨rfl, hopens, hlog⟩, rfl⟩
        · refine ⟨_, .inr ⟨later, rfl, hlater, hcloses⟩, ?_⟩
          rw [List.map_append, List.map_singleton, Connection.heard_concat]
      · rintro ⟨later, ⟨rfl, hopens, hlog⟩ | ⟨l, rfl, hl, hcloses⟩, rfl⟩
        · exact .inl ⟨hopens, hlog, rfl⟩
        · refine .inr ⟨hcloses, _, ⟨l, hl, rfl⟩, ?_⟩
          rw [List.map_append, List.map_singleton, Connection.heard_concat]

/-! ### What the client says -/

/-- **A session is connected** until the broker closes it, and for ever if a byte came before. -/
theorem isConnected_iff_heard (h : w.session.connection = none) {es : List WireEvent}
    {later : List WireNote} (hlater : IsSession (w.history es) later) :
    (w.run es).session.isConnected = true ↔
      .peerClose ∉ later.map Prod.fst ∨ Connection.SentFirst (later.map Prod.fst) := by
  have hconnection := (connection_eq_some_iff h es _).mpr ⟨later, hlater, rfl⟩
  rw [TcpSession.isConnected, hconnection, Option.any_some, Connection.isAlive_heard]

/-- A client without a session is not connected. -/
theorem not_isConnected (h : w.session.connection = none) {es : List WireEvent}
    (hes : ¬Pending opens closes (w.history es)) : ¬(w.run es).session.isConnected = true := by
  have hnone : (w.run es).session.connection = none := by
    rwa [← exists_connection_iff h, not_exists, ← Option.eq_none_iff_forall_ne_some] at hes
  simp [TcpSession.isConnected, hnone]

/-- A client is connected exactly in a session that counts as connected. -/
theorem isConnected_iff_exists (h : w.session.connection = none) (es : List WireEvent) :
    (w.run es).session.isConnected = true ↔ ∃ later, IsSession (w.history es) later ∧
      (.peerClose ∉ later.map Prod.fst ∨ Connection.SentFirst (later.map Prod.fst)) := by
  constructor
  · intro hes
    cases hc : (w.run es).session.connection with
    | none => simp [TcpSession.isConnected, hc] at hes
    | some c =>
        obtain ⟨later, hlater, -⟩ := (connection_eq_some_iff h es c).mp hc
        exact ⟨later, hlater, (isConnected_iff_heard h hlater).mp hes⟩
  · rintro ⟨later, hlater, hheard⟩
    exact (isConnected_iff_heard h hlater).mpr hheard

/-- **When a client is connected.** It is not before the first start that succeeds, nor after a stop
until a start succeeds, nor after a start that fails. In a session in which the broker has closed
the connection it is, whatever happens but a stop, exactly if a byte came before that. So it is
connected exactly in a session that the broker has not closed, or in which a byte came first. -/
theorem isConnected_iff_of_history (broker : String) (around : Surroundings)
    (es : List WireEvent) :
    let w : Wire := ⟨{ broker }, around⟩
    let connected (es : List WireEvent) : Prop := (w.run es).session.isConnected = true
    ((∀ n ∈ w.history es, opens n = false) → ¬connected es) ∧
    (∀ rest, (∀ n ∈ (w.run (es ++ [.stop])).history rest, opens n = false) →
      ¬connected (es ++ .stop :: rest)) ∧
    (∀ e, ((w.run es).step .start).2 = .error e → ¬connected (es ++ [.start])) ∧
    (∀ later rest, IsSession (w.history es) later → .stop ∉ rest →
      (connected (es ++ .peerClose :: rest) ↔ Connection.SentFirst (later.map Prod.fst))) ∧
    (connected es ↔ ∃ later, IsSession (w.history es) later ∧
      (.peerClose ∉ later.map Prod.fst ∨ Connection.SentFirst (later.map Prod.fst))) := by
  intro w connected
  have hw : w.session.connection = none := rfl
  refine ⟨fun hes => ?_, fun rest hrest => ?_, fun e he => ?_, fun later rest hlater hrest => ?_,
    isConnected_iff_exists hw es⟩
  · refine not_isConnected hw ?_
    rintro ⟨earlier, n, later, hlog, hopens, -⟩
    simp [hes n (by simp [hlog])] at hopens
  · have hlog : w.history (es ++ .stop :: rest) =
        (w.history es ++ [(.stop, .ok ())]) ++ (w.run (es ++ [.stop])).history rest := by
      rw [List.append_cons, history_append, history_concat]
      rfl
    refine not_isConnected hw ?_
    rw [hlog, pending_append hrest, pending_concat]
    simp [opens, closes]
  · refine not_isConnected hw ?_
    rw [history_concat, pending_concat, ← exists_connection_iff hw, he]
    rintro (hopens | ⟨⟨c, hc⟩, -⟩)
    · simp [opens, Except.isOk, Except.toBool] at hopens
    · simp [step_start_of_some hc] at he
  · have hstop : .stop ∉ WireEvent.peerClose :: rest := by simpa using hrest
    have hsession := hlater.append (closes_of_mem_history (w.run es) hstop)
    rw [← history_append] at hsession
    have hiff := isConnected_iff_heard hw hsession
    rw [List.map_append, map_fst_history, Connection.sentFirst_append_close] at hiff
    simpa [connected] using hiff

/-- A byte that came first outlives the connection, and a byte that comes later does not bring it
back; a session that was stopped says nothing of the next one. -/
theorem isConnected_iff_of_history_of_unread :
    let w : Wire :=
      ⟨{ broker := "tcp://127.0.0.1" }, ⟨.available, [.v4 ⟨127, 0, 0, 1⟩ 1883]⟩⟩
    let connected (es : List WireEvent) : Prop := (w.run es).session.isConnected = true
    connected [.start, .peerSend, .peerClose, .listenerClose, .start] ∧
      ¬connected [.start, .peerClose, .peerSend, .start] ∧
      ¬connected [.start, .peerSend, .peerClose, .listenerClose, .stop, .start] := by
  intro w connected
  have hunread : IsSession (w.history [.start, .peerSend]) [(.peerSend, .ok ())] :=
    ⟨[], (.start, .ok ()), by decide +kernel, rfl, not_pending_nil, by simp [closes]⟩
  have hfresh : IsSession (w.history [.start]) [] :=
    ⟨[], (.start, .ok ()), by decide +kernel, rfl, not_pending_nil, by simp⟩
  have hrefused : ∀ n ∈ (w.run [.start, .peerSend, .peerClose, .listenerClose, .stop]).history
      [.start], opens n = false := by decide +kernel
  have hclosed := isConnected_iff_of_history "tcp://127.0.0.1" w.around
  refine ⟨?_, ?_, ?_⟩
  · exact ((hclosed _).2.2.2.1 _ [.listenerClose, .start] hunread (by decide)).mpr
      ⟨[], [], rfl, by simp⟩
  · exact fun h => Connection.not_sentFirst_nil
      (((hclosed _).2.2.2.1 _ [.peerSend, .start] hfresh (by decide)).mp h)
  · exact (hclosed [.start, .peerSend, .peerClose, .listenerClose]).2.1 [.start] hrefused

end Wire

end Onboarding
