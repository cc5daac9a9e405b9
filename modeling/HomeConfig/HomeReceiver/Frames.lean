import HomeConfig.HomeReceiver.Sketch

/-! Frames of the stations in the hands of the receiver. -/
namespace HomeReceiver

open Arduino HomeMonitor

variable {station type value before rest receivedData : List Byte} {p q c : Byte}

theorem recv_of_le {frame : List Byte} (h : frame.length ≤ maxMessageLen) : recv frame = frame :=
  List.take_of_length_le h

/-! ### The three parts, by where the separators are -/

/-- The station is what stands between the second byte and the first colon. -/
theorem stationName_of_colon (hlen : (p :: q :: (station ++ colon :: rest)).length < 2 ^ 16)
    (hnul : 0#8 ∉ p :: q :: station) (hcolon : colon ∉ p :: q :: station) :
    (parse (p :: q :: (station ++ colon :: rest))).stationName = station := by
  have hindex : indexOf (p :: q :: (station ++ colon :: rest)) colon = (2 + station.length : ℕ) := by
    have h := indexOf_append rest (by decide) hnul hcolon
    rw [List.length_cons, List.length_cons, Nat.add_assoc, Nat.add_comm] at h
    exact h
  have hstation : 0#8 ∉ station := fun h => hnul (List.mem_cons_of_mem _ (List.mem_cons_of_mem _ h))
  have hbound : 2 + station.length < 2 ^ 16 := by
    simp only [List.length_cons, List.length_append] at hlen
    omega
  have hsubstring := substring_append [p, q] station (colon :: rest)
  rw [cString_eq_self hstation] at hsubstring
  simp only [parse, hindex, unsignedInt_natCast hbound]
  exact hsubstring

/-- Without a colon it is everything up to a NUL. -/
theorem stationName_of_no_colon (hlen : (p :: q :: rest).length < 2 ^ 16)
    (h : colon ∉ cString (p :: q :: rest)) :
    (parse (p :: q :: rest)).stationName = cString rest := by
  have hle : ([p, q] ++ rest).length ≤ 65535 := by
    have hlen' : ([p, q] ++ rest).length < 2 ^ 16 := hlen
    omega
  simp only [parse, indexOf_of_not_mem h, unsignedInt_neg_one]
  exact substring_to_end [p, q] rest hle

/-- The type is what stands between the first colon and the first equals sign. -/
theorem readingType_of_separators
    (hlen : (before ++ colon :: (type ++ equalsSign :: rest)).length < 2 ^ 16)
    (hnul : 0#8 ∉ before ++ colon :: type) (hcolon : colon ∉ before)
    (hequals : equalsSign ∉ before ++ colon :: type) :
    (parse (before ++ colon :: (type ++ equalsSign :: rest))).readingType = type := by
  have hcolonAt : indexOf (before ++ colon :: (type ++ equalsSign :: rest)) colon =
      (before.length : ℕ) :=
    indexOf_append _ (by decide) (fun h => hnul (List.mem_append_left _ h)) hcolon
  have hequalsAt : indexOf (before ++ colon :: (type ++ equalsSign :: rest)) equalsSign =
      ((before ++ [colon]).length + type.length : ℕ) := by
    have h := indexOf_append rest (by decide) hnul hequals
    simp only [List.append_assoc, List.cons_append] at h
    rw [h]
    simp
    omega
  have htype : 0#8 ∉ type :=
    fun h => hnul (List.mem_append_right _ (List.mem_cons_of_mem _ h))
  have hbounds : before.length + 1 < 2 ^ 16 ∧ (before ++ [colon]).length + type.length < 2 ^ 16 := by
    simp only [List.length_cons, List.length_append, List.length_nil] at hlen ⊢
    omega
  have hleft : unsignedInt ((before.length : ℕ) + 1) = (before ++ [colon]).length := by
    rw [List.length_append, List.length_singleton]
    exact unsignedInt_natCast hbounds.1
  have hsubstring := substring_append (before ++ [colon]) type (equalsSign :: rest)
  rw [cString_eq_self htype] at hsubstring
  simp only [parse, hcolonAt, hequalsAt, hleft, unsignedInt_natCast hbounds.2]
  simpa only [List.append_assoc, List.singleton_append] using hsubstring

/-- The value is what follows the first equals sign, up to a NUL. -/
theorem readingValue_of_equals (hlen : (before ++ equalsSign :: value).length < 2 ^ 16)
    (hnul : 0#8 ∉ before) (hequals : equalsSign ∉ before) :
    (parse (before ++ equalsSign :: value)).readingValue = cString value := by
  have hequalsAt : indexOf (before ++ equalsSign :: value) equalsSign = (before.length : ℕ) :=
    indexOf_append _ (by decide) hnul hequals
  have hbound : before.length + 1 < 2 ^ 16 := by
    simp only [List.length_cons, List.length_append] at hlen
    omega
  have hleft : unsignedInt ((before.length : ℕ) + 1) = (before ++ [equalsSign]).length := by
    rw [List.length_append, List.length_singleton]
    exact unsignedInt_natCast hbound
  have hsubstring := substring_to_end (before ++ [equalsSign]) value le_rfl
  simp only [parse, hequalsAt, hleft]
  simpa only [List.append_assoc, List.singleton_append] using hsubstring

/-- No part contains a NUL. -/
theorem nul_not_mem_parse (receivedData : List Byte) :
    0#8 ∉ (parse receivedData).readingType ∧ 0#8 ∉ (parse receivedData).readingValue :=
  ⟨nul_not_mem_substring _ _ _, nul_not_mem_substring _ _ _⟩

/-- Without an equals sign it is the whole frame. -/
theorem readingValue_of_no_equals (h : equalsSign ∉ cString receivedData) :
    (parse receivedData).readingValue = cString receivedData := by
  have hsubstring := substring_to_end [] receivedData le_rfl
  simp only [parse, indexOf_of_not_mem h]
  exact hsubstring

/-! ### The encoder -/

/-- The last character of a message is lost to the terminator. -/
theorem sendMessage_of_value (h : 0#8 ∉ message station type value) :
    sendMessage station type (value ++ [c]) = message station type value ++ [0#8] := by
  have hmessage : message station type (value ++ [c]) = message station type value ++ [c] := by
    simp [message]
  rw [sendMessage, hmessage]
  exact toCharArray_length h

/-- Without a value that is the equals sign. -/
theorem sendMessage_of_nil (h : 0#8 ∉ ascii "R>" ++ station ++ ascii ":" ++ type) :
    sendMessage station type [] = ascii "R>" ++ station ++ ascii ":" ++ type ++ [0#8] := by
  have hsign : ascii "=" = [equalsSign] := by decide
  rw [sendMessage, message, List.append_nil, hsign]
  exact toCharArray_length h

/-- What stands in front of the equals sign of a message. -/
def front (station type : List Byte) : List Byte := ascii "R>" ++ station ++ ascii ":" ++ type

theorem message_eq : message station type value = front station type ++ equalsSign :: value := by
  have hsign : ascii "=" = [equalsSign] := by decide
  rw [message, hsign, ← front, List.append_assoc, List.singleton_append]

/-- A station without NUL and equals sign keeps the front free of both. -/
theorem not_mem_front (hs : c ∉ station) (ht : c ∉ type) (hc : c ∉ ascii "R>:") :
    c ∉ front station type := by
  have hascii : ascii "R>:" = ascii "R>" ++ ascii ":" := by decide
  rw [hascii, List.mem_append, not_or] at hc
  simp only [front, List.mem_append, not_or]
  exact ⟨⟨⟨hc.1, hs⟩, hc.2⟩, ht⟩

section Sent

variable {shown : List Byte} (hnul : 0#8 ∉ front station type)
  (hequals : equalsSign ∉ front station type)

include hnul hequals

/-- Without a value the receiver finds no equals sign and reads the whole frame. -/
theorem readingValue_sent_nil (hlen : (message station type []).length ≤ maxMessageLen) :
    (parse (recv (sendMessage station type []))).readingValue = front station type := by
  have hframe : sendMessage station type [] = front station type ++ [0#8] :=
    sendMessage_of_nil hnul
  have hframelen : (front station type ++ [0#8]).length ≤ maxMessageLen := by
    rw [message_eq] at hlen
    simpa using hlen
  have hshown : cString (front station type ++ [0#8]) = front station type :=
    cString_terminated hnul []
  rw [hframe, recv_of_le hframelen, readingValue_of_no_equals (by rwa [hshown]), hshown]

/-- Otherwise the last character of the value is missing. -/
theorem readingValue_sent_concat (hvalue : 0#8 ∉ shown)
    (hlen : (message station type (shown ++ [c])).length ≤ maxMessageLen) :
    (parse (recv (sendMessage station type (shown ++ [c])))).readingValue = shown := by
  have hmax : maxMessageLen < 2 ^ 16 := by decide
  have hmessage : 0#8 ∉ message station type shown := by
    rw [message_eq]
    simp only [List.mem_append, List.mem_cons, not_or]
    exact ⟨hnul, by decide, hvalue⟩
  have hframe : sendMessage station type (shown ++ [c]) =
      front station type ++ equalsSign :: (shown ++ [0#8]) := by
    rw [sendMessage_of_value hmessage, message_eq, List.append_assoc, List.cons_append]
  have hframelen : (front station type ++ equalsSign :: (shown ++ [0#8])).length ≤
      maxMessageLen := by
    rw [message_eq] at hlen
    simpa using hlen
  rw [hframe, recv_of_le hframelen,
    readingValue_of_equals (hframelen.trans_lt hmax) hnul hequals, cString_terminated hvalue]

end Sent

/-- Whatever is sent, the receiver does not read the value that was meant. -/
theorem readingValue_ne (hstation : 0#8 ∉ station ∧ equalsSign ∉ station) (htype : 0#8 ∉ type)
    (hequals : equalsSign ∉ type) (hvalue : 0#8 ∉ value)
    (hlen : (message station type value).length ≤ maxMessageLen) :
    (parse (recv (sendMessage station type value))).readingValue ≠ value := by
  have hnul : 0#8 ∉ front station type := not_mem_front hstation.1 htype (by decide)
  have hsign : equalsSign ∉ front station type := not_mem_front hstation.2 hequals (by decide)
  rcases List.eq_nil_or_concat value with rfl | ⟨shown, c, rfl⟩
  · rw [readingValue_sent_nil hnul hsign hlen]
    simp [front, ascii]
  · rw [List.concat_eq_append] at hlen hvalue ⊢
    have hshown : 0#8 ∉ shown := fun h => hvalue (List.mem_append_left _ h)
    rw [readingValue_sent_concat hnul hsign hshown hlen]
    simp

theorem never_inverted (hstation : 0#8 ∉ station ∧ equalsSign ∉ station)
    (hequals : equalsSign ∉ type) (hlen : (message station type value).length ≤ maxMessageLen) :
    parse (recv (sendMessage station type value)) ≠ ⟨station, type, value⟩ := by
  intro h
  have hvalue : (parse (recv (sendMessage station type value))).readingValue = value :=
    congrArg Reading.readingValue h
  -- a NUL in the reading could not come back at all
  obtain ⟨htype, hnul⟩ := nul_not_mem_parse (recv (sendMessage station type value))
  rw [h] at htype hnul
  exact readingValue_ne hstation htype hequals hnul hlen hvalue

/-- The receiver inverts the encoder of the garage station on no reading. -/
theorem garage_never_inverted (hequals : equalsSign ∉ type)
    (hlen : (message (ascii "garage") type value).length ≤ maxMessageLen) :
    parse (recv (garageDoorSendMessage type value)) ≠ ⟨ascii "garage", type, value⟩ :=
  never_inverted (by decide) hequals hlen

theorem garage_never_inverted_temperature :
    equalsSign ∉ ascii "temperature" ∧
    parse (recv (garageDoorSendMessage (ascii "temperature") (ascii "21.50"))) ≠
      ⟨ascii "garage", ascii "temperature", ascii "21.50"⟩ :=
  ⟨by decide, garage_never_inverted (by decide) (by decide)⟩

theorem kitchen_never_inverted (hequals : equalsSign ∉ type)
    (hlen : (message (ascii "kitchen") type value).length ≤ maxMessageLen) :
    parse (recv (soilHumiditySendMessage type value)) ≠ ⟨ascii "kitchen", type, value⟩ :=
  never_inverted (by decide) hequals hlen

/-- 48 percent arrive as 4. -/
theorem last_digit_lost :
    parse (recv (garageDoorSendMessage (ascii "humidity") (ascii "48"))) =
      ⟨ascii "garage", ascii "humidity", ascii "4"⟩ ∧
    ascii "4" ≠ ascii "48" := by
  constructor
  · decide
  · decide

end HomeReceiver
