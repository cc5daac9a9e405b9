import HomeConfig.Library.Machine
import HomeConfig.Dht.Channel

/-! A sketch that reports a DHT quantity, and what a run of it shows of that quantity. -/
namespace Climate

open Arduino MySensors Dht

/-- The messages that are sent for a child. -/
def reportsOf (sensor : Byte) (es : List (Effect Action)) : List MyMessage :=
  (sent es).filter (·.sensor = sensor)

/-- A sketch that polls a channel: the steps with a reading handle it as `poll` does, and
the others leave the channel and its child alone. -/
structure Carrier (σ ι : Type) where
  step : σ → ι → σ × List (Effect Action)
  boot : σ
  nodeId : Byte
  message : MyMessage
  convert : BitVec 32 → BitVec 32
  channel : σ → Channel
  reading : σ → ι → Option (BitVec 32)
  Proper : σ → Prop
  proper_boot : Proper boot
  proper_step : ∀ s i, Proper s → Proper (step s i).1
  channel_boot : channel boot = .boot
  polled : ∀ s i r, Proper s → reading s i = some r →
    channel (step s i).1 = ((channel s).poll nodeId message convert r).1 ∧
      reportsOf message.sensor (step s i).2 = sent ((channel s).poll nodeId message convert r).2
  unpolled : ∀ s i, Proper s → reading s i = none →
    channel (step s i).1 = channel s ∧ reportsOf message.sensor (step s i).2 = []
  convert_congr : ∀ r r', Single.ofBits r = .ofBits r' →
    Single.ofBits (convert r) = .ofBits (convert r')

/-- The node and what was seen of the quantity: the messages sent for its child, and the
valid readings with whether each was sent, the newest first. -/
structure Session (σ : Type) where
  node : σ
  log : List MyMessage
  values : List Single
  attempts : List Bool

/-- How many valid readings were not sent since one was. -/
def unsent (attempts : List Bool) : ℕ := (attempts.takeWhile (!·)).length

/-- The reading before, or the zero that the memory starts with. -/
def previous (values : List Single) : Single := values.headD (.finite 0)

/-- A reading is sent when it differs from the one before or ten were not sent. -/
def Due {σ : Type} (s : Session σ) (r : BitVec 32) : Prop :=
  Single.ofBits r ≠ previous s.values ∨ unsent s.attempts = 10

namespace Carrier

variable {σ ι : Type} (c : Carrier σ ι)

def start : Session σ := ⟨c.boot, [], [], []⟩

/-- A reading that is not a failure. -/
def valid (s : σ) (i : ι) : Option (BitVec 32) :=
  (c.reading s i).filter fun r => Single.ofBits r ≠ .nan

def reports (s : σ) (i : ι) : List MyMessage := reportsOf c.message.sensor (c.step s i).2

def session (s : Session σ) (i : ι) : Option (Session σ) :=
  some
    { node := (c.step s.node i).1
      log := s.log ++ c.reports s.node i
      values := ((c.valid s.node i).map Single.ofBits).toList ++ s.values
      attempts :=
        ((c.valid s.node i).map fun _ => !(c.reports s.node i).isEmpty).toList ++ s.attempts }

/-- The globals in terms of what was seen. -/
structure Remembers (s : Session σ) : Prop where
  proper : c.Proper s.node
  last : Single.ofBits (c.channel s.node).last = previous s.values
  counter : (c.channel s.node).nNoUpdates.toNat = unsent s.attempts
  counter_le : unsent s.attempts ≤ 10
  aligned : s.attempts.length = s.values.length

/-- What a step with a valid reading does. -/
inductive Polled (s : Session σ) (r : BitVec 32) (t : Session σ) : Prop where
  | sent (m : MyMessage) (due : Due s r) (hm : m.getFloat = .ofBits (c.convert r))
      (log : t.log = s.log ++ [m]) (attempts : t.attempts = true :: s.attempts)
      (channel : c.channel t.node = ⟨r, 0#8⟩)
  | counted (due : ¬ Due s r) (log : t.log = s.log) (attempts : t.attempts = false :: s.attempts)
      (channel : c.channel t.node =
        ⟨(c.channel s.node).last, (c.channel s.node).nNoUpdates + 1#8⟩)

/-- What a step without one does. -/
structure Idle (s t : Session σ) : Prop where
  log : t.log = s.log
  values : t.values = s.values
  attempts : t.attempts = s.attempts
  channel : c.channel t.node = c.channel s.node

variable {c} {s t : Session σ} {i : ι} {r : BitVec 32}

theorem remembers_start : c.Remembers c.start := by
  refine ⟨c.proper_boot, ?_, ?_, Nat.zero_le _, rfl⟩
  · simp only [start, c.channel_boot]
    decide +kernel
  · simp only [start, c.channel_boot]
    rfl

theorem valid_eq_some : c.valid s.node i = some r ↔
    c.reading s.node i = some r ∧ Single.ofBits r ≠ .nan := by
  simp [valid, Option.filter_eq_some_iff]

theorem reports_of_unread (hp : c.Proper s.node) (h : c.valid s.node i = none) :
    c.channel (c.step s.node i).1 = c.channel s.node ∧ c.reports s.node i = [] := by
  cases hr : c.reading s.node i with
  | none => exact c.unpolled _ _ hp hr
  | some r =>
    have hnan : Single.ofBits r = .nan := by
      by_contra hnan
      rw [valid_eq_some.mpr ⟨hr, hnan⟩] at h
      cases h
    obtain ⟨hchannel, hreports⟩ := c.polled _ _ _ hp hr
    rw [Channel.poll_of_nan hnan] at hchannel hreports
    exact ⟨hchannel, hreports⟩

theorem session_of_unread (hs : c.Remembers s) (h : c.valid s.node i = none)
    (ht : c.session s i = some t) : c.Idle s t := by
  obtain ⟨hchannel, hreports⟩ := reports_of_unread hs.proper h
  obtain rfl := Option.some.inj ht
  constructor
  · simp [hreports]
  · simp [h]
  · simp [h]
  · exact hchannel

theorem due_iff (hs : c.Remembers s) (hr : Single.ofBits r ≠ .nan) :
    Due s r ↔ Single.ne (.ofBits r) (.ofBits (c.channel s.node).last) ∨
      (c.channel s.node).nNoUpdates = forceUpdateNReads := by
  have hcounter : (c.channel s.node).nNoUpdates = forceUpdateNReads ↔ unsent s.attempts = 10 := by
    rw [← hs.counter, ← BitVec.toNat_inj]
    rfl
  rw [Due, hs.last, hcounter]
  simp [Single.ne, hr]

theorem session_of_valid (hs : c.Remembers s) (h : c.valid s.node i = some r)
    (ht : c.session s i = some t) :
    t.values = .ofBits r :: s.values ∧ c.Polled s r t := by
  obtain ⟨hread, hnan⟩ := valid_eq_some.mp h
  obtain ⟨hchannel, hreports⟩ := c.polled _ _ _ hs.proper hread
  obtain rfl := Option.some.inj ht
  refine ⟨by simp [h], ?_⟩
  by_cases hdue : Due s r
  · rw [Channel.poll_of_due hnan ((due_iff hs hnan).mp hdue), sent_map_transmit,
      send_registered] at hreports
    rw [Channel.poll_of_due hnan ((due_iff hs hnan).mp hdue)] at hchannel
    refine .sent (report c.nodeId (c.message.setFloat (c.convert r) 1#8)) hdue ?_ ?_ ?_ hchannel
    · rw [getFloat_report, MyMessage.getFloat_setFloat]
    · simp only [reports, hreports]
    · simp [reports, hreports, h]
  · rw [Channel.poll_of_not_due hnan (mt (due_iff hs hnan).mpr hdue)] at hchannel hreports
    refine .counted hdue ?_ ?_ hchannel
    · simp [reports, hreports]
    · simp [reports, hreports, h]

theorem unsent_counted (attempts : List Bool) :
    unsent (false :: attempts) = unsent attempts + 1 := rfl

theorem remembers_session (hs : c.Remembers s) (ht : c.session s i = some t) :
    c.Remembers t := by
  have hproper : c.Proper t.node := by
    obtain rfl := Option.some.inj ht
    exact c.proper_step _ _ hs.proper
  cases h : c.valid s.node i with
  | none =>
    obtain ⟨-, hvalues, hattempts, hchannel⟩ := session_of_unread hs h ht
    refine ⟨hproper, ?_, ?_, ?_, ?_⟩
    · rw [hchannel, hvalues, hs.last]
    · rw [hchannel, hattempts, hs.counter]
    · rw [hattempts]
      exact hs.counter_le
    · rw [hattempts, hvalues, hs.aligned]
  | some r =>
    obtain ⟨hvalues, hpolled⟩ := session_of_valid hs h ht
    cases hpolled with
    | sent m hdue hm hlog hattempts hchannel =>
      refine ⟨hproper, ?_, ?_, ?_, ?_⟩
      · rw [hchannel, hvalues]
        rfl
      · rw [hchannel, hattempts]
        rfl
      · rw [hattempts]
        exact Nat.zero_le _
      · rw [hattempts, hvalues, List.length_cons, List.length_cons, hs.aligned]
    | counted hdue hlog hattempts hchannel =>
      obtain ⟨hsame, hless⟩ := not_or.mp hdue
      have hle := hs.counter_le
      refine ⟨hproper, ?_, ?_, ?_, ?_⟩
      · rw [hchannel, hvalues]
        exact hs.last.trans (not_not.mp hsame).symm
      · rw [hchannel, hattempts, unsent_counted, BitVec.toNat_add, hs.counter]
        exact Nat.mod_eq_of_lt (by simp; omega)
      · rw [hattempts, unsent_counted]
        omega
      · rw [hattempts, hvalues, List.length_cons, List.length_cons, hs.aligned]

end Carrier

end Climate
