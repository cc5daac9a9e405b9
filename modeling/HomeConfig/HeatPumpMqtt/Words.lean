import HomeConfig.HeatPumpMqtt.Callback

/-! The words of a custom packet, and the bytes that the parser takes them for. -/
namespace HeatPumpMqtt

open Arduino

def separator : Byte := 32#8

/-- One or two hex digits, in either case, and the byte they denote. -/
inductive HexWord : List Byte → Byte → Prop where
  | one {c : Byte} {m : ℕ} (h : digitValue c = some m) (hm : m < 16) :
      HexWord [c] (BitVec.ofNat 8 m)
  | two {c d : Byte} {m n : ℕ} (hc : digitValue c = some m) (hm : m < 16)
      (hd : digitValue d = some n) (hn : n < 16) : HexWord [c, d] (BitVec.ofNat 8 (16 * m + n))

/-- Hex words with spaces between them, and the bytes they denote. -/
inductive HexWords : List Byte → List Byte → Prop where
  | nil : HexWords [] []
  | space {text values : List Byte} (h : HexWords text values) :
      HexWords (separator :: text) values
  | word {w text values : List Byte} {b : Byte} (hw : HexWord w b)
      (hsep : text = [] ∨ text.head? = some separator) (h : HexWords text values) :
      HexWords (w ++ text) (b :: values)

/-- The grammar of the custom packets: one to twenty words. -/
def PacketGrammar (text values : List Byte) : Prop :=
  HexWords text values ∧ 1 ≤ values.length ∧ values.length ≤ 20

variable {w text values : List Byte} {b c : Byte} {m : ℕ}

/-! ### Words -/

theorem digit_ne_separator (h : digitValue c = some m) : c ≠ separator ∧ c ≠ 0#8 := by
  constructor
  · rintro rfl
    cases (by decide : digitValue separator = none).symm.trans h
  · rintro rfl
    cases (by decide : digitValue 0#8 = none).symm.trans h

theorem HexWord.ne_nil (hw : HexWord w b) : w ≠ [] := by cases hw <;> simp

theorem HexWord.hex_of_mem (hw : HexWord w b) : ∀ c ∈ w, ∃ m < 16, digitValue c = some m := by
  intro c hc
  cases hw with
  | one h hm =>
    obtain rfl := List.mem_singleton.mp hc
    exact ⟨_, hm, h⟩
  | two hd hm he hn =>
    rcases List.mem_pair.mp hc with rfl | rfl
    · exact ⟨_, hm, hd⟩
    · exact ⟨_, hn, he⟩

theorem HexWord.ne_separator (hw : HexWord w b) : ∀ c ∈ w, c ≠ separator ∧ c ≠ 0#8 := by
  intro c hc
  obtain ⟨m, -, h⟩ := hw.hex_of_mem c hc
  exact digit_ne_separator h

/-- Nothing but spaces and hex digits occurs in a text of words. -/
theorem HexWords.hex_of_mem (h : HexWords text values) :
    ∀ c ∈ text, c = separator ∨ ∃ m < 16, digitValue c = some m := by
  induction h with
  | nil => intro c hc; cases hc
  | space _ ih =>
    intro c hc
    rcases List.mem_cons.mp hc with rfl | hc
    · exact .inl rfl
    · exact ih c hc
  | word hw _ _ ih =>
    intro c hc
    rcases List.mem_append.mp hc with hc | hc
    · exact .inr (hw.hex_of_mem c hc)
    · exact ih c hc

theorem cString_eq_self_of_hexWords (h : HexWords text values) : cString text = text := by
  rw [cString, List.takeWhile_eq_self_iff]
  intro c hc
  rcases h.hex_of_mem c hc with rfl | ⟨m, -, hm⟩
  · rfl
  · exact bne_iff_ne.mpr (digit_ne_separator hm).2

/-! ### The parser on words -/

theorem digit_head (h : digitValue c = some m) :
    isSpace c = false ∧ c ≠ 45#8 ∧ c ≠ 43#8 := by
  revert m
  revert c
  decide

theorem strtol_of_hexWord (hw : HexWord w b) : BitVec.ofInt 8 (strtol w 16) = b := by
  cases hw with
  | @one c m h hm =>
    obtain ⟨hspace, hminus, hplus⟩ := digit_head h
    have hlong : longMin ≤ m ∧ (m : ℤ) ≤ longMax := by
      simp only [longMin, longMax]
      omega
    simp [strtol, takeSign, hspace, hminus, hplus, h, hm, digitsValue, applySign,
      min_eq_right hlong.2, max_eq_right hlong.1]
  | @two c d m n hc hm hd hn =>
    obtain ⟨hspace, hminus, hplus⟩ := digit_head hc
    have hlong : longMin ≤ (16 * m + n : ℤ) ∧ (16 * m + n : ℤ) ≤ longMax := by
      simp only [longMin, longMax]
      omega
    have hvalue : strtol [c, d] 16 = (16 * m + n : ℕ) := by
      simp [strtol, takeSign, hspace, hminus, hplus, hc, hm, hd, hn, digitsValue, applySign,
        min_eq_right hlong.2, max_eq_right hlong.1]
    rw [hvalue, BitVec.ofInt_natCast]

/-- The second delimiter string names the same delimiter as the first. -/
theorem strtok_three (s : List Byte) : strtok (ascii "   ") s = strtok (ascii " ") s := by
  have h1 : ascii " " = [separator] := by decide
  have h3 : ascii "   " = [separator, separator, separator] := by decide
  simp [strtok, h1, h3]

theorem packetBytes_of_hexWords (h : HexWords text values) (room : ℕ) :
    packetBytes room (strtok (ascii " ") text) = values.take room := by
  have hsep : ascii " " = [separator] := by decide
  induction h generalizing room with
  | nil => cases room <;> rfl
  | space _ ih => rw [hsep, strtok_separator (List.mem_singleton_self _), ← hsep, ih]
  | @word w text values b hw hend _ ih =>
    cases room with
    | zero => rfl
    | succ room =>
      have htoken : strtok (ascii " ") (w ++ text) = some (w, text.tail) := by
        apply strtok_word hw.ne_nil
        · intro c hc
          simpa [hsep] using (hw.ne_separator c hc).1
        · rcases hend with rfl | hend
          · simp
          · simp [hend, hsep]
      have htail : strtok (ascii " ") text.tail = strtok (ascii " ") text := by
        rcases hend with rfl | hend
        · rfl
        · obtain ⟨rest, rfl⟩ := List.head?_eq_some_iff.mp hend
          rw [hsep, strtok_separator (List.mem_singleton_self _), List.tail_cons]
      rw [htoken, packetBytes, strtok_three, htail, ih, strtol_of_hexWord hw, List.take_succ_cons]

/-- The tokens of a text are its first twenty words. -/
theorem customBytes_of_hexWords (h : HexWords text values) :
    customBytes text = values.take 20 := by
  rw [customBytes, cString_eq_self_of_hexWords h, packetBytes_of_hexWords h]

theorem customBytes_of_grammar (h : PacketGrammar text values) : customBytes text = values := by
  rw [customBytes_of_hexWords h.1, List.take_of_length_le h.2.2]

end HeatPumpMqtt
