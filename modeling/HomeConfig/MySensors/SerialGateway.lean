import HomeConfig.MySensors.Protocol

/-! The serial line of a gateway: characters are gathered until a newline ends a command. -/
namespace MySensors

open Arduino

/-- MY_GATEWAY_MAX_RECEIVE_LENGTH. -/
def gatewayMaxReceiveLength : ℕ := 100

/-- The characters of `_serialInputString` up to `_serialInputPos`, and `_serialMsg`. -/
structure SerialGateway where
  input : List Byte
  message : MyMessage

namespace SerialGateway

def powerUp : SerialGateway := ⟨[], .clear⟩

/-- What `gatewayTransportAvailable` does with a character, and the message that
`gatewayTransportReceive` then returns, if any; nothing when the parser overruns a buffer. -/
def read (g : SerialGateway) (inChar : Byte) : Option (SerialGateway × Option MyMessage) :=
  if g.input.length < gatewayMaxReceiveLength - 1 then
    if inChar = newline then
      (protocolParse g.message g.input).map fun (ok, message) =>
        (⟨[], message⟩, if ok then some message else none)
    else some ({ g with input := g.input ++ [inChar] }, none)
  else
    -- too long: thrown away, this character included
    some ({ g with input := [] }, none)

/-- The messages that come of a stretch of characters. -/
def readAll : SerialGateway → List Byte → Option (SerialGateway × List MyMessage)
  | g, [] => some (g, [])
  | g, c :: cs => (g.read c).bind fun (g', message) =>
    (readAll g' cs).map fun (g'', messages) => (g'', message.toList ++ messages)

variable {g g' : SerialGateway} {c : Byte} {cs text : List Byte} {m : MyMessage}
  {messages : List MyMessage}

theorem readAll_append (g : SerialGateway) (cs cs' : List Byte) :
    g.readAll (cs ++ cs') = (g.readAll cs).bind fun (g', messages) =>
      (g'.readAll cs').map fun (g'', messages') => (g'', messages ++ messages') := by
  induction cs generalizing g with
  | nil =>
    cases h : g.readAll cs' <;> simp [readAll, h]
  | cons c cs ih =>
    rw [List.cons_append, readAll, readAll]
    cases g.read c with
    | none => rfl
    | some r =>
      obtain ⟨g₁, message⟩ := r
      dsimp only [Option.bind_some]
      rw [ih]
      cases g₁.readAll cs with
      | none => rfl
      | some r =>
        obtain ⟨g₂, messages⟩ := r
        cases h : g₂.readAll cs' <;> simp [h]

/-- The characters of a line are gathered. -/
theorem readAll_text (hn : newline ∉ text)
    (hroom : g.input.length + text.length < gatewayMaxReceiveLength) :
    g.readAll text = some ({ g with input := g.input ++ text }, []) := by
  induction text generalizing g with
  | nil => simp [readAll]
  | cons c text ih =>
    rw [List.length_cons] at hroom
    have hmax : gatewayMaxReceiveLength = 100 := rfl
    have hc : c ≠ newline := fun h => hn (h ▸ List.mem_cons_self)
    have hread : g.read c = some ({ g with input := g.input ++ [c] }, none) := by
      unfold read
      rw [if_pos (by omega), if_neg hc]
    have hrest := ih (g := { g with input := g.input ++ [c] })
      (fun h => hn (List.mem_cons_of_mem _ h)) (by simp only [List.length_append, List.length_singleton]; omega)
    rw [readAll, hread, Option.bind_some]
    dsimp only
    rw [hrest]
    simp

/-- A line that is not too long is handed to the parser as it stands. -/
theorem readAll_line (hempty : g.input = []) (hn : newline ∉ text)
    (hroom : text.length < gatewayMaxReceiveLength - 1) :
    g.readAll (text ++ [newline]) = (protocolParse g.message text).map fun (ok, message) =>
      (⟨[], message⟩, if ok then [message] else []) := by
  have hmax : gatewayMaxReceiveLength = 100 := rfl
  rw [readAll_append, readAll_text hn (by rw [hempty, List.length_nil]; omega), Option.bind_some]
  dsimp only
  rw [hempty, List.nil_append, readAll]
  unfold read
  dsimp only
  rw [if_pos hroom, if_pos rfl]
  cases protocolParse g.message text with
  | none => rfl
  | some r =>
    obtain ⟨ok, message⟩ := r
    cases ok <;> rfl

/-- Whatever has been gathered, a newline leaves nothing of it. -/
theorem input_of_read_newline {message : Option MyMessage} (h : g.read newline = some (g', message)) :
    g'.input = [] := by
  unfold read at h
  split at h
  · rw [if_pos rfl] at h
    obtain ⟨⟨ok, m⟩, -, hm⟩ := Option.map_eq_some_iff.mp h
    obtain ⟨rfl, -⟩ := Prod.mk.inj hm
    rfl
  · obtain ⟨rfl, -⟩ := Prod.mk.inj (Option.some.inj h)
    rfl

theorem input_of_readAll_newline (h : g.readAll (cs ++ [newline]) = some (g', messages)) :
    g'.input = [] := by
  rw [readAll_append] at h
  obtain ⟨⟨g₁, before⟩, -, h₁⟩ := Option.bind_eq_some_iff.mp h
  obtain ⟨⟨g₂, last⟩, h₂, heq₂⟩ := Option.map_eq_some_iff.mp h₁
  obtain ⟨⟨g₃, message⟩, hread, h₃⟩ := Option.bind_eq_some_iff.mp h₂
  obtain ⟨⟨g₄, rest⟩, h₄, heq₄⟩ := Option.map_eq_some_iff.mp h₃
  obtain ⟨rfl, -⟩ := Prod.mk.inj heq₂
  obtain ⟨rfl, -⟩ := Prod.mk.inj heq₄
  obtain ⟨rfl, -⟩ := Prod.mk.inj (Option.some.inj h₄)
  exact input_of_read_newline hread

theorem current_of_readAll {g g' : SerialGateway} (hg : Current g.message)
    (h : g.readAll cs = some (g', messages)) : Current g'.message := by
  induction cs generalizing g messages with
  | nil =>
    obtain ⟨rfl, -⟩ := Prod.mk.inj (Option.some.inj h)
    exact hg
  | cons c cs ih =>
    obtain ⟨⟨g₁, message⟩, hread, h₁⟩ := Option.bind_eq_some_iff.mp h
    obtain ⟨⟨g₂, rest⟩, h₂, heq⟩ := Option.map_eq_some_iff.mp h₁
    obtain ⟨rfl, -⟩ := Prod.mk.inj heq
    refine ih ?_ h₂
    unfold read at hread
    split at hread
    · split at hread
      · obtain ⟨⟨ok, m⟩, hparse, heq⟩ := Option.map_eq_some_iff.mp hread
        obtain ⟨rfl, -⟩ := Prod.mk.inj heq
        exact hg.protocolParse hparse
      · obtain ⟨rfl, -⟩ := Prod.mk.inj (Option.some.inj hread)
        exact hg
    · obtain ⟨rfl, -⟩ := Prod.mk.inj (Option.some.inj hread)
      exact hg

/-- Lines that are sent one after the other are read one after the other. -/
theorem readAll_lines {ms : List MyMessage} (hempty : g.input = []) (hg : Current g.message)
    (hms : ∀ m ∈ ms, Sendable m) :
    ∃ g' after, g.readAll (ms.flatMap protocolFormat) = some (g', after) ∧ g'.input = [] ∧
      List.Forall₂ Echoed ms after := by
  induction ms generalizing g with
  | nil => exact ⟨g, [], rfl, hempty, .nil⟩
  | cons m ms ih =>
    have hm := hms m List.mem_cons_self
    obtain ⟨m', hparse, hecho⟩ := hm.protocolParse_line hg
    have hn : newline ∉ line m := fun h => (hm.line_plain _ h).2 rfl
    have hroom : (line m).length < gatewayMaxReceiveLength - 1 := by
      have hlen := length_line_le m
      have hmax : gatewayMaxReceiveLength = 100 := rfl
      omega
    have hline : g.readAll (protocolFormat m) = some (⟨[], m'⟩, [m']) := by
      rw [protocolFormat_eq, readAll_line hempty hn hroom, hparse]
      rfl
    have hm' : Current m' := hecho.current
    obtain ⟨g', after, hrest, hinput, hafter⟩ :=
      ih (g := ⟨[], m'⟩) rfl hm' fun k hk => hms k (List.mem_cons_of_mem _ hk)
    refine ⟨g', m' :: after, ?_, hinput, .cons hecho hafter⟩
    rw [List.flatMap_cons, readAll_append, hline, Option.bind_some]
    dsimp only
    rw [hrest]
    rfl

/-- Whatever has come over the line before, from the next newline on each message that is sent as a
line is read once, in order and as it was meant. -/
theorem serial_lines (cs : List Byte) (g : SerialGateway) (before : List MyMessage)
    (hbefore : powerUp.readAll (cs ++ [newline]) = some (g, before)) (ms : List MyMessage)
    (hms : ∀ m ∈ ms, Sendable m) :
    ∃ g' after, powerUp.readAll (cs ++ [newline] ++ ms.flatMap protocolFormat) =
      some (g', before ++ after) ∧ g'.input = [] ∧ List.Forall₂ Echoed ms after := by
  have hstart : Current powerUp.message := ⟨by decide, by decide⟩
  obtain ⟨g', after, hlines, hinput, hafter⟩ := readAll_lines (input_of_readAll_newline hbefore)
    (current_of_readAll hstart hbefore) hms
  refine ⟨g', after, ?_, hinput, hafter⟩
  rw [readAll_append, hbefore, Option.bind_some]
  dsimp only
  rw [hlines]
  rfl

theorem serial_lines_switchOn : ∃ g before g' after,
    powerUp.readAll (ascii "noise" ++ [newline]) = some (g, before) ∧
    powerUp.readAll (ascii "noise" ++ [newline] ++
      [switchOn, streamBlock, switchOn].flatMap protocolFormat) = some (g', before ++ after) ∧
    List.Forall₂ Echoed [switchOn, streamBlock, switchOn] after := by
  have hsome : (powerUp.readAll (ascii "noise" ++ [newline])).isSome = true := by decide
  obtain ⟨⟨g, before⟩, hbefore⟩ := Option.isSome_iff_exists.mp hsome
  have hsendable : ∀ m ∈ [switchOn, streamBlock, switchOn], Sendable m := by
    simp [sendable_switchOn, sendable_streamBlock]
  obtain ⟨g', after, hread, -, hafter⟩ := serial_lines (ascii "noise") g before hbefore _ hsendable
  exact ⟨g, before, g', after, hbefore, hread, hafter⟩

end SerialGateway

end MySensors
