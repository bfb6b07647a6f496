import Mathlib
import SigurdOS.Companion.Effects

set_option mvcgen.warning false

namespace SigurdOS.Companion

open Bytes MessageStore Std.Do

section Lengths

@[simp] theorem length_word (value : UInt32) : (word value).length = 4 := length_leBytes _ _

@[simp] theorem length_halfWord (value : UInt16) : (halfWord value).length = 2 := length_leBytes _ _

theorem length_words (words : List UInt32) : (words.map word).flatten.length = 4 * words.length := by
  induction words with
  | nil => rfl
  | cons head rest ih =>
    rw [List.map_cons, List.flatten_cons, List.length_append, length_word, ih, List.length_cons]
    omega

theorem length_strzcpy (chars : List UInt8) {size : Nat} (positive : 0 < size) :
    (strzcpy chars size).length = size := by
  have kept := List.length_take_le (size - 1) chars
  rw [strzcpy, List.length_append, List.length_replicate]
  omega

theorem length_takeWhile_lt {byte : UInt8} {bytes : List UInt8} (member : byte ∈ bytes) :
    (bytes.takeWhile (fun other => other != byte)).length < bytes.length := by
  induction bytes with
  | nil => cases member
  | cons head rest ih =>
    by_cases same : head = byte
    · simp [same]
    · have later : byte ∈ rest := (List.mem_cons.mp member).resolve_left (fun equal => same equal.symm)
      simpa [same] using ih later

theorem length_stringAt {frame : List UInt8} {i : Nat} (inside : i ≤ frame.length) :
    i + (terminated ((cmdFrame frame).drop i)).length ≤ frame.length := by
  have whole : (cmdFrame frame).drop i = frame.drop i ++ [0] := List.drop_append_of_le_length inside
  have split : terminated (frame.drop i ++ [0]) = terminated (frame.drop i) := by
    have parts := List.takeWhile_append_dropWhile (p := fun byte : UInt8 => byte != 0) (l := frame.drop i)
    by_cases clean : ∀ byte ∈ frame.drop i, byte ≠ 0
    · rw [terminated_append_zero clean, terminated_of_nonzero clean]
    · unfold terminated
      rw [List.takeWhile_append, if_neg]
      intro complete
      apply clean
      have all : (frame.drop i).takeWhile (fun byte => byte != 0) = frame.drop i :=
        (List.takeWhile_prefix _).eq_of_length complete
      exact fun byte member => terminated_nonzero byte (by rw [terminated, all]; exact member)
  have short := length_terminated_le (frame.drop i)
  rw [whole, split]
  rw [List.length_drop] at short
  omega

end Lengths

/-- A response that the response buffer holds and `sendResponseFrame` accepts. -/
def Answers (reply : List UInt8) : Prop := 0 < reply.length ∧ reply.length ≤ maxFrameSize

@[simp, grind .] theorem answers_okFrame : Answers okFrame := ⟨Nat.succ_pos 0, by decide⟩

@[simp, grind .] theorem answers_errFrame (err : CompanionError) : Answers (errFrame err) :=
  ⟨Nat.succ_pos 1, show 2 ≤ maxFrameSize by decide⟩

@[simp, grind .] theorem answers_okOr (err : CompanionError) (done : Bool) : Answers (okOr err done) := by
  unfold okOr
  split
  · exact answers_okFrame
  · exact answers_errFrame err

/-- The accesses stay inside the command buffer up to its terminator and inside the response buffer,
    and the device changed only while no earlier response was pending. -/
structure Contained (len : Nat) (trace : Trace) : Prop where
  reads : ∀ access ∈ trace.reads, access.1 + access.2 ≤ len + 1
  writes : ∀ access ∈ trace.writes, access.1 + access.2 ≤ maxFrameSize + 1
  mutations : true ∉ trace.mutations

structure Extent where
  len : Nat

section Access

variable {σ : Type} {extent : Extent} {frame : List UInt8}

structure Safe (extent : Extent) (w : Work σ) : Prop where
  contained : Contained extent.len w.trace
  idle : w.pending = false
  responses : w.trace.responses = []

@[spec] theorem logRead_spec {i count : Nat} (inside : i + count ≤ extent.len + 1) :
    ⦃fun w => ⌜Safe extent w⌝⦄ (logRead i count : Parse σ Unit) ⦃⇓ _ w => ⌜Safe extent w⌝⦄ := by
  mvcgen [logRead]
  rename_i w safe pair
  refine ⟨⟨?_, safe.contained.writes, safe.contained.mutations⟩, safe.idle, safe.responses⟩
  intro access member
  rcases List.mem_append.mp member with old | new
  · exact safe.contained.reads access old
  · obtain rfl := List.mem_singleton.mp new
    exact inside

@[spec] theorem logWrite_spec {offset length : Nat} (inside : offset + length ≤ maxFrameSize + 1) :
    ⦃fun w => ⌜Safe extent w⌝⦄ (logWrite offset length : Parse σ Unit) ⦃⇓ _ w => ⌜Safe extent w⌝⦄ := by
  mvcgen [logWrite]
  rename_i w safe pair
  refine ⟨⟨safe.contained.reads, ?_, safe.contained.mutations⟩, safe.idle, safe.responses⟩
  intro access member
  rcases List.mem_append.mp member with old | new
  · exact safe.contained.writes access old
  · obtain rfl := List.mem_singleton.mp new
    exact inside

@[spec] theorem byteAt_spec {i : Nat} (inside : i ≤ frame.length) :
    ⦃fun w => ⌜Safe ⟨frame.length⟩ w⌝⦄ (byteAt frame i : Parse σ UInt8) ⦃⇓ _ w => ⌜Safe ⟨frame.length⟩ w⌝⦄ := by
  mvcgen [byteAt]
  show i + 1 ≤ frame.length + 1
  omega

@[spec] theorem bytesAt_spec {i count : Nat} (inside : i + count ≤ frame.length + 1) :
    ⦃fun w => ⌜Safe ⟨frame.length⟩ w⌝⦄ (bytesAt frame i count : Parse σ (List UInt8))
      ⦃⇓ _ w => ⌜Safe ⟨frame.length⟩ w⌝⦄ := by
  mvcgen [bytesAt]

@[spec] theorem wordAt_spec {i : Nat} (inside : i + 4 ≤ frame.length + 1) :
    ⦃fun w => ⌜Safe ⟨frame.length⟩ w⌝⦄ (wordAt frame i : Parse σ UInt32) ⦃⇓ _ w => ⌜Safe ⟨frame.length⟩ w⌝⦄ := by
  mvcgen [wordAt]

theorem stringAt_ends {i : Nat} (inside : i ≤ frame.length) :
    ⦃fun w => ⌜Safe ⟨frame.length⟩ w⌝⦄ (stringAt frame i : Parse σ (List UInt8))
      ⦃⇓ chars w => ⌜Safe ⟨frame.length⟩ w ∧ i + chars.length ≤ frame.length⌝⦄ := by
  have ends := length_stringAt inside
  mvcgen [stringAt]
  show i + _ ≤ frame.length + 1
  omega

@[spec] theorem stringAt_spec {i : Nat} (inside : i ≤ frame.length) :
    ⦃fun w => ⌜Safe ⟨frame.length⟩ w⌝⦄ (stringAt frame i : Parse σ (List UInt8))
      ⦃⇓ _ w => ⌜Safe ⟨frame.length⟩ w⌝⦄ := by
  have ends := @stringAt_ends σ frame i inside
  mvcgen [ends]
  exact fun safe _ => safe

@[spec] theorem boundedStringAt_spec {i limit : Nat} (inside : i + limit ≤ frame.length + 1) :
    ⦃fun w => ⌜Safe ⟨frame.length⟩ w⌝⦄ (boundedStringAt frame i limit : Parse σ (List UInt8))
      ⦃⇓ _ w => ⌜Safe ⟨frame.length⟩ w⌝⦄ := by
  mvcgen [boundedStringAt]
  show i + min limit _ ≤ frame.length + 1
  omega

@[spec] theorem ask_spec {α : Type} (f : σ → α) :
    ⦃fun w => ⌜Safe extent w⌝⦄ (ask f : Parse σ α) ⦃⇓ _ w => ⌜Safe extent w⌝⦄ := by
  mvcgen [ask]

@[spec] theorem call_spec {α : Type} (f : σ → α × σ) :
    ⦃fun w => ⌜Safe extent w⌝⦄ (call f : Parse σ α) ⦃⇓ _ w => ⌜Safe extent w⌝⦄ := by
  mvcgen [call]
  rename_i w safe pair
  refine ⟨⟨safe.contained.reads, safe.contained.writes, ?_⟩, safe.idle, safe.responses⟩
  intro member
  rcases List.mem_append.mp member with old | new
  · exact safe.contained.mutations old
  · rw [safe.idle] at new
    simp at new

theorem respondAt_spec (fields : List (List UInt8)) {offset : Nat}
    (inside : offset + fields.flatten.length ≤ maxFrameSize + 1) :
    ⦃fun w => ⌜Safe extent w⌝⦄ (respondAt offset fields : Parse σ (List UInt8))
      ⦃⇓ reply w => ⌜Safe extent w ∧ reply = fields.flatten⌝⦄ := by
  induction fields generalizing offset with
  | nil => mvcgen [respondAt]
  | cons field rest ih =>
    rw [List.flatten_cons, List.length_append] at inside
    have later := @ih (offset + field.length) (by omega)
    mvcgen [respondAt, later]
    · omega
    · rename_i reached
      exact ⟨reached.1, by rw [reached.2]; rfl⟩

@[spec] theorem respond_spec {fields : List (List UInt8)} (positive : 0 < fields.flatten.length)
    (inside : fields.flatten.length ≤ maxFrameSize) :
    ⦃fun w => ⌜Safe extent w⌝⦄ (respond fields : Parse σ (List UInt8))
      ⦃⇓ reply w => ⌜Safe extent w ∧ Answers reply⌝⦄ := by
  have whole := @respondAt_spec σ extent fields 0 (by omega)
  mvcgen [respond, whole]
  rintro safe rfl
  exact ⟨safe, positive, inside⟩

end Access

abbrev Answering {σ : Type} (frame : List UInt8) (command : Parse σ (List UInt8)) : Prop :=
  ⦃fun w => ⌜Safe ⟨frame.length⟩ w⌝⦄ command ⦃⇓ reply w => ⌜Safe ⟨frame.length⟩ w ∧ Answers reply⌝⦄

section HostCommands

variable {σ : Type} (h : CompanionBridgeHost σ) {frame : List UInt8}

attribute [local simp, local grind =] length_word length_halfWord FixedBytes.length_eq

@[spec] theorem writeSentOrErr_spec {extent : Extent} (result : CompanionSendResult) :
    ⦃fun w => ⌜Safe extent w⌝⦄ (writeSentOrErr result : Parse σ (List UInt8))
      ⦃⇓ reply w => ⌜Safe extent w ∧ Answers reply⌝⦄ := by
  mvcgen [writeSentOrErr]
  all_goals simp [sentFields, maxFrameSize]

@[spec] theorem writeContactFrame_spec {extent : Extent} (contact : CompanionContact) :
    ⦃fun w => ⌜Safe extent w⌝⦄ (writeContactFrame contact : Parse σ (List UInt8))
      ⦃⇓ reply w => ⌜Safe extent w ∧ Answers reply⌝⦄ := by
  mvcgen [writeContactFrame]
  all_goals simp [contactFields, maxFrameSize, pubKeySize, pathSize, length_strzcpy]

theorem sendTxtMsg_answers (long : 14 ≤ frame.length) : Answering frame (sendTxtMsg h frame) := by
  mvcgen [sendTxtMsg]
  all_goals grind [pubKeyPrefixSize]

theorem sendChannelTxtMsg_answers (long : 7 ≤ frame.length) : Answering frame (sendChannelTxtMsg h frame) := by
  mvcgen [sendChannelTxtMsg]
  all_goals grind

theorem sendChannelData_answers (long : 5 ≤ frame.length) : Answering frame (sendChannelData h frame) := by
  mvcgen [sendChannelData]
  all_goals grind

theorem getDeviceTime_answers : Answering frame (getDeviceTime h) := by
  mvcgen [getDeviceTime]
  all_goals simp [maxFrameSize]

theorem setDeviceTime_answers (long : 5 ≤ frame.length) : Answering frame (setDeviceTime h frame) := by
  mvcgen [setDeviceTime]
  all_goals grind

theorem getBattAndStorage_answers : Answering frame (getBattAndStorage h) := by
  mvcgen [getBattAndStorage]
  all_goals simp [maxFrameSize]

theorem setAdvertName_answers (long : 2 ≤ frame.length) : Answering frame (setAdvertName h frame) := by
  mvcgen [setAdvertName]
  all_goals grind

theorem setAdvertLatlon_answers (long : 9 ≤ frame.length) : Answering frame (setAdvertLatlon h frame) := by
  mvcgen [setAdvertLatlon]
  all_goals grind

theorem setRadioParams_answers (long : 11 ≤ frame.length) : Answering frame (setRadioParams h frame) := by
  mvcgen [setRadioParams, optionalByteAt]
  all_goals grind

theorem setRadioTxPower_answers (long : 2 ≤ frame.length) : Answering frame (setRadioTxPower h frame) := by
  mvcgen [setRadioTxPower]
  all_goals grind

theorem setTuningParams_answers (long : 9 ≤ frame.length) : Answering frame (setTuningParams h frame) := by
  mvcgen [setTuningParams]
  all_goals grind

theorem getTuningParams_answers : Answering frame (getTuningParams h) := by
  mvcgen [getTuningParams]
  all_goals simp [maxFrameSize]

theorem sendSelfAdvert_answers : Answering frame (sendSelfAdvert h frame) := by
  mvcgen [sendSelfAdvert, optionalByteAt]
  all_goals grind

theorem getChannel_answers (long : 2 ≤ frame.length) : Answering frame (getChannel h frame) := by
  mvcgen [getChannel]
  all_goals grind [maxFrameSize, length_strzcpy]

theorem setChannel_answers (long : 50 ≤ frame.length) : Answering frame (setChannel h frame) := by
  mvcgen [setChannel]
  all_goals grind

theorem setDevicePin_answers (long : 5 ≤ frame.length) : Answering frame (setDevicePin h frame) := by
  mvcgen [setDevicePin]
  all_goals grind

theorem setOtherParams_answers (long : 2 ≤ frame.length) : Answering frame (setOtherParams h frame) := by
  mvcgen [setOtherParams]
  all_goals grind

theorem setPathHashMode_answers (long : 3 ≤ frame.length) : Answering frame (setPathHashMode h frame) := by
  mvcgen [setPathHashMode]
  all_goals grind

theorem setAutoaddConfig_answers (long : 2 ≤ frame.length) : Answering frame (setAutoaddConfig h frame) := by
  mvcgen [setAutoaddConfig, optionalByteAt]
  all_goals grind

theorem getAutoaddConfig_answers : Answering frame (getAutoaddConfig h) := by
  mvcgen [getAutoaddConfig]
  all_goals simp [maxFrameSize]

theorem getContactByKey_answers (long : 33 ≤ frame.length) : Answering frame (getContactByKey h frame) := by
  mvcgen [getContactByKey]
  all_goals grind [pubKeySize]

theorem contactCommand_answers (change : List UInt8 → σ → Bool × σ) (long : 33 ≤ frame.length) :
    Answering frame (contactCommand frame change) := by
  mvcgen [contactCommand]
  all_goals grind [pubKeySize]

theorem addUpdateContact_answers (long : 136 ≤ frame.length) : Answering frame (addUpdateContact h frame) := by
  mvcgen [addUpdateContact, optionalPosition]
  all_goals grind [pubKeySize, pathSize]

theorem exportContact_answers : Answering frame (exportContact h frame) := by
  mvcgen [exportContact]
  all_goals grind [pubKeySize, maxFrameSize, Filled.fits]

theorem importContact_answers (long : 99 ≤ frame.length) : Answering frame (importContact h frame) := by
  mvcgen [importContact]
  all_goals grind

theorem hasConnection_answers (long : 33 ≤ frame.length) : Answering frame (hasConnection h frame) := by
  mvcgen [hasConnection]
  all_goals grind [pubKeySize]

theorem logout_answers (long : 33 ≤ frame.length) : Answering frame (logout h frame) := by
  mvcgen [logout]
  all_goals grind [pubKeySize]

theorem getStats_answers (long : 2 ≤ frame.length) : Answering frame (getStats h frame) := by
  mvcgen [getStats]
  all_goals first | omega | simp [maxFrameSize]

theorem getAllowedRepeatFreq_answers : Answering frame (getAllowedRepeatFreq h) := by
  mvcgen [getAllowedRepeatFreq]
  · simp
  · rw [List.flatten_cons, List.length_append, length_words, List.length_take, List.length_singleton]
    unfold maxFrameSize
    omega

theorem getCustomVars_answers : Answering frame (getCustomVars h) := by
  mvcgen [getCustomVars]
  all_goals grind [maxFrameSize, Filled.fits]

theorem getAdvertPath_answers (long : 34 ≤ frame.length) : Answering frame (getAdvertPath h frame) := by
  mvcgen [getAdvertPath]
  · grind [pubKeySize]
  · simp
  · simp only [List.flatten_cons, List.flatten_nil, List.length_append, List.length_cons, List.length_nil, length_word,
      List.length_take]
    omega

theorem sendPathDiscoveryReq_answers (long : 34 ≤ frame.length) : Answering frame (sendPathDiscoveryReq h frame) := by
  mvcgen [sendPathDiscoveryReq]
  all_goals grind [pubKeySize]

theorem getDefaultFloodScope_answers : Answering frame (getDefaultFloodScope h) := by
  mvcgen [getDefaultFloodScope]
  all_goals grind [maxFrameSize]

theorem setDefaultFloodScope_answers : Answering frame (setDefaultFloodScope h frame) := by
  mvcgen [setDefaultFloodScope]
  all_goals grind

theorem setFloodScopeKey_answers (long : 2 ≤ frame.length) : Answering frame (setFloodScopeKey h frame) := by
  mvcgen [setFloodScopeKey]
  all_goals grind

theorem sendLogin_answers (long : 33 ≤ frame.length) : Answering frame (sendLogin h frame) := by
  mvcgen [sendLogin]
  all_goals grind [pubKeySize]

theorem sendStatusReq_answers (long : 33 ≤ frame.length) : Answering frame (sendStatusReq h frame) := by
  mvcgen [sendStatusReq]
  all_goals grind [pubKeySize]

theorem sendTracePath_answers (long : 11 ≤ frame.length) : Answering frame (sendTracePath h frame) := by
  mvcgen [sendTracePath]
  all_goals grind [maxFrameSize]

theorem sendRawData_answers (long : 6 ≤ frame.length) : Answering frame (sendRawData h frame) := by
  mvcgen [sendRawData]
  all_goals grind

theorem sendControlData_answers (long : 2 ≤ frame.length) : Answering frame (sendControlData h frame) := by
  mvcgen [sendControlData]
  all_goals grind

theorem setCustomVar_answers (long : 4 ≤ frame.length) : Answering frame (setCustomVar h frame) := by
  refine Triple.bind _ _ (stringAt_ends (by omega)) fun pair => ?_
  mvcgen
  case inside =>
    rename_i separated name w reached
    have shorter := length_takeWhile_lt separated
    show 1 + (pair.takeWhile _).length + 1 ≤ frame.length
    omega
  all_goals grind

theorem silent_answers {reply : List UInt8} (answers : Answers reply) :
    Answering (σ := σ) frame (pure reply) := by
  mvcgen

end HostCommands

/-- An outcome that hands over at most one response, of a length the transports accept. -/
structure Outcome.Sound (outcome : Outcome) : Prop where
  reply : ∀ reply ∈ outcome.reply, Answers reply
  telemetry : ∀ senderPrefix blob, outcome.follow = .telemetry senderPrefix blob → senderPrefix.length ≤
    pubKeyPrefixSize

abbrev Conducting {σ : Type} (frame : List UInt8) (command : Parse σ Outcome) : Prop :=
  ⦃fun w => ⌜Safe ⟨frame.length⟩ w⌝⦄ command ⦃⇓ outcome w => ⌜Safe ⟨frame.length⟩ w ∧ outcome.Sound⌝⦄

section SessionCommands

variable {σ : Type} (h : CompanionBridgeHost σ) (build : Build) {frame : List UInt8} (connection : Connection)

@[grind .] theorem sound_answer {connection : Connection} {reply : List UInt8} (answers : Answers reply) :
    (answer connection reply).Sound :=
  ⟨fun _ same => by cases same; exact answers, fun _ _ impossible => by cases impossible⟩

@[grind .] theorem sound_silent (connection : Connection) : (⟨connection, none, .nothing⟩ : Outcome).Sound :=
  ⟨nofun, nofun⟩

@[grind .] theorem sound_telemetry (connection : Connection) (key blob : List UInt8) :
    (⟨connection, none, .telemetry (key.take pubKeyPrefixSize) blob⟩ : Outcome).Sound := by
  refine ⟨nofun, fun senderPrefix _ same => ?_⟩
  cases same
  exact List.length_take_le _ _

theorem deviceQuery_conducts (long : 2 ≤ frame.length) : Conducting frame (deviceQuery h build frame connection) := by
  mvcgen [deviceQuery]
  · omega
  · simp
  · simp [maxFrameSize, length_strzcpy]
  · grind

theorem appStart_conducts : Conducting frame (appStart h connection) := by
  mvcgen [appStart]
  · simp [selfInfoFields]
  · simp [selfInfoFields, maxFrameSize, FixedBytes.length_eq, pubKeySize]
    omega
  · rename_i reached
    exact ⟨reached.1, fun _ same => by cases same; exact reached.2, fun _ _ impossible => by cases impossible⟩

theorem getContacts_conducts : Conducting frame (getContacts h frame connection) := by
  mvcgen [getContacts]
  all_goals grind [maxFrameSize, length_word]

theorem importPrivateKey_conducts (long : 65 ≤ frame.length) :
    Conducting frame (importPrivateKey h frame connection) := by
  mvcgen [importPrivateKey]
  · omega
  · rename_i done _ safe
    refine ⟨safe, fun _ same => by cases same; exact answers_okOr _ _, fun _ _ impossible => ?_⟩
    cases done <;> cases impossible

theorem reboot_conducts (long : 7 ≤ frame.length) : Conducting frame (reboot h frame connection) := by
  mvcgen [reboot]
  all_goals grind

theorem factoryReset_conducts (long : 6 ≤ frame.length) : Conducting frame (factoryReset h frame connection) := by
  mvcgen [factoryReset]
  · omega
  · rename_i safe
    exact ⟨safe, fun _ same => by cases same; exact answers_okOr _ _, fun _ _ impossible => by cases impossible⟩
  · grind

theorem signStart_conducts : Conducting (σ := σ) frame (signStart connection) := by
  mvcgen [signStart]
  all_goals grind [maxFrameSize, length_word]

theorem signData_conducts (long : 2 ≤ frame.length) : Conducting (σ := σ) frame (signData frame connection) := by
  mvcgen [signData]
  all_goals grind

theorem signFinish_conducts : Conducting frame (signFinish h connection) := by
  mvcgen [signFinish]
  all_goals grind [maxFrameSize, signatureSize, Filled.fits]

theorem sendTelemetryReq_conducts :
    Conducting frame (sendTelemetryReq h frame connection) := by
  mvcgen [sendTelemetryReq]
  all_goals grind [pubKeySize]

theorem trackedRequest_conducts (send : List UInt8 → List UInt8 → σ → CompanionSendResult × σ)
    (long : 34 ≤ frame.length) : Conducting frame (trackedRequest h frame connection send) := by
  mvcgen [trackedRequest]
  all_goals grind [pubKeySize]

theorem sendBinaryReq_conducts (long : 34 ≤ frame.length) : Conducting frame (sendBinaryReq h frame connection) := by
  have tracked := trackedRequest_conducts h connection h.sendBinaryReq long
  mvcgen [sendBinaryReq, tracked]
  all_goals grind [pubKeySize]

theorem hostCommand_answers {command : CompanionCommand} {run : Parse σ (List UInt8)}
    (long : commandMinimumLength command ≤ frame.length) (found : hostCommand h frame command = some run) :
    Answering frame run := by
  cases command <;> cases found
  all_goals simp only [commandMinimumLength, pubKeySize, pathSize] at long
  case sendTxtMsg => exact sendTxtMsg_answers h long
  case sendChannelTxtMsg => exact sendChannelTxtMsg_answers h long
  case sendChannelData => exact sendChannelData_answers h long
  case getDeviceTime => exact getDeviceTime_answers h
  case setDeviceTime => exact setDeviceTime_answers h long
  case getBattAndStorage => exact getBattAndStorage_answers h
  case setAdvertName => exact setAdvertName_answers h long
  case setAdvertLatlon => exact setAdvertLatlon_answers h long
  case setRadioParams => exact setRadioParams_answers h long
  case setRadioTxPower => exact setRadioTxPower_answers h long
  case setTuningParams => exact setTuningParams_answers h long
  case getTuningParams => exact getTuningParams_answers h
  case sendSelfAdvert => exact sendSelfAdvert_answers h
  case getChannel => exact getChannel_answers h long
  case setChannel => exact setChannel_answers h long
  case setDevicePin => exact setDevicePin_answers h long
  case exportPrivateKey => exact silent_answers ⟨Nat.succ_pos 0, by decide⟩
  case setOtherParams => exact setOtherParams_answers h long
  case setPathHashMode => exact setPathHashMode_answers h long
  case setAutoaddConfig => exact setAutoaddConfig_answers h long
  case getAutoaddConfig => exact getAutoaddConfig_answers h
  case getContactByKey => exact getContactByKey_answers h long
  case resetPath => exact contactCommand_answers _ long
  case removeContact => exact contactCommand_answers _ long
  case shareContact => exact contactCommand_answers _ long
  case addUpdateContact => exact addUpdateContact_answers h long
  case exportContact => exact exportContact_answers h
  case importContact => exact importContact_answers h long
  case hasConnection => exact hasConnection_answers h long
  case logout => exact logout_answers h long
  case getStats => exact getStats_answers h long
  case getAllowedRepeatFreq => exact getAllowedRepeatFreq_answers h
  case getCustomVars => exact getCustomVars_answers h
  case setCustomVar => exact setCustomVar_answers h long
  case getAdvertPath => exact getAdvertPath_answers h long
  case sendPathDiscoveryReq => exact sendPathDiscoveryReq_answers h long
  case getDefaultFloodScope => exact getDefaultFloodScope_answers h
  case setDefaultFloodScope => exact setDefaultFloodScope_answers h
  case setFloodScopeKey => exact setFloodScopeKey_answers h long
  case sendLogin => exact sendLogin_answers h long
  case sendStatusReq => exact sendStatusReq_answers h long
  case sendTracePath => exact sendTracePath_answers h long
  case sendRawData => exact sendRawData_answers h long
  case sendControlData => exact sendControlData_answers h long
  case sendRawPacket => exact silent_answers (answers_errFrame _)

theorem sessionCommand_conducts {command : CompanionCommand} (long : commandMinimumLength command ≤ frame.length) :
    Conducting frame (sessionCommand h build frame connection command) := by
  have hosted : Conducting frame (hostedOutcome h frame connection command) := by
    unfold hostedOutcome
    cases found : hostCommand h frame command with
    | none =>
      simp only [Option.elim_none]
      mvcgen
      grind
    | some run =>
      have answers := hostCommand_answers h long found
      simp only [Option.elim_some]
      mvcgen [answers]
      grind
  cases command <;> first | exact hosted | simp only [commandMinimumLength, pubKeySize] at long
  case deviceQuery => exact deviceQuery_conducts h build connection long
  case appStart => exact appStart_conducts h connection
  case getContacts => exact getContacts_conducts h connection
  case importPrivateKey => exact importPrivateKey_conducts h connection long
  case reboot => exact reboot_conducts h connection long
  case factoryReset => exact factoryReset_conducts h connection long
  case signStart => exact signStart_conducts connection
  case signData => exact signData_conducts connection long
  case signFinish => exact signFinish_conducts h connection
  case sendTelemetryReq => exact sendTelemetryReq_conducts h connection
  case sendBinaryReq => exact sendBinaryReq_conducts h connection long
  case sendAnonReq => exact trackedRequest_conducts h connection _ long

end SessionCommands

section Frames

variable {σ : Type} (h : CompanionBridgeHost σ) (build : Build) {s after : State σ} {len : Nat} {frame : List UInt8}

theorem conducting_run {command : Parse σ Outcome} (conducts : Conducting frame command) {w : Work σ}
    (safe : Safe ⟨frame.length⟩ w) : Safe ⟨frame.length⟩ (command.run w).2 ∧ (command.run w).1.Sound := by
  have done := conducts w safe
  exact done

structure Unanswered (len : Nat) (s : State σ) : Prop where
  contained : Contained len s.trace
  responses : s.trace.responses = []

/-- After the command: at most one response was handed over, and the transports accept it. -/
structure Answered (len : Nat) (s : State σ) : Prop where
  contained : Contained len s.trace
  once : s.trace.responses.length ≤ 1
  answers : ∀ response ∈ s.trace.responses, Answers response

theorem Unanswered.answered (open_ : Unanswered len s) : Answered len s :=
  ⟨open_.contained, by simp [open_.responses], by simp [open_.responses]⟩

theorem Unanswered.of_trace (open_ : Unanswered len s) (trace : after.trace = s.trace) : Unanswered len after :=
  ⟨by rw [trace]; exact open_.contained, by rw [trace]; exact open_.responses⟩

theorem Answered.of_trace (answered : Answered len s) (trace : after.trace = s.trace) : Answered len after :=
  ⟨by rw [trace]; exact answered.contained, by rw [trace]; exact answered.once, by rw [trace]; exact answered.answers⟩

theorem Transmits.trace (transmits : Transmits s after) : after.trace = s.trace := by
  obtain ⟨_, _, rfl, -⟩ := transmits
  rfl

theorem Contained.logWrite {offset length : Nat} {trace : Trace} (contained : Contained len trace)
    (inside : offset + length ≤ maxFrameSize + 1) :
    Contained len { trace with writes := trace.writes ++ [(offset, length)] } := by
  refine ⟨contained.reads, fun access member => ?_, contained.mutations⟩
  rcases List.mem_append.mp member with old | new
  · exact contained.writes access old
  · obtain rfl := List.mem_singleton.mp new
    exact inside

theorem Unanswered.mutate {α : Type} (open_ : Unanswered len s) (idle : s.current.pendingResponse = [])
    (f : σ → α × σ) :
    Unanswered len (s.mutate f).2 := by
  refine ⟨⟨open_.contained.reads, open_.contained.writes, fun member => ?_⟩, open_.responses⟩
  rcases List.mem_append.mp member with old | new
  · exact open_.contained.mutations old
  · rw [idle] at new
    simp at new

theorem sendResponseFrame_answered (open_ : Unanswered len s) (answers : Answers frame) :
    Answered len (sendResponseFrame s frame) := by
  have logged : Answered len (s.logResponse frame) := by
    have responses : (s.logResponse frame).trace.responses = [frame] := by
      show s.trace.responses ++ [frame] = [frame]
      rw [open_.responses]
      rfl
    exact ⟨⟨open_.contained.reads, open_.contained.writes, open_.contained.mutations⟩,
      by rw [responses]; exact Nat.le_refl 1, by rw [responses]; simpa using answers⟩
  rcases sendResponseFrame_cases s frame with sent | ⟨middle, sent, -, -, waits⟩
  · exact logged.of_trace sent.trace
  · rw [waits]
    exact (logged.of_trace sent.trace).of_trace rfl

theorem refreshConnectionSession_unanswered (open_ : Unanswered len s) :
    Unanswered len (refreshConnectionSession h s) := by
  unfold refreshConnectionSession
  dsimp only
  split
  · have reset : Unanswered len (s.update resetConnectionSession) := open_.of_trace rfl
    exact (reset.mutate rfl fun host => ((), h.cancelBinaryReqs host)).of_trace rfl
  · exact open_.of_trace rfl

theorem expirePendingBinary_unanswered (open_ : Unanswered len s) (idle : s.current.pendingResponse = []) :
    Unanswered len (expirePendingBinary h s) ∧ (expirePendingBinary h s).current.pendingResponse = [] := by
  have cancels (expired : List PendingBinaryRequest) (s : State σ) (open_ : Unanswered len s)
      (idle : s.current.pendingResponse = []) :
      Unanswered len (expired.foldl (fun s request => cancelBinaryReq h s request.tag) s) ∧
        (expired.foldl (fun s request => cancelBinaryReq h s request.tag) s).current.pendingResponse = [] := by
    induction expired generalizing s with
    | nil => exact ⟨open_, idle⟩
    | cons request rest ih => exact ih _ (open_.mutate idle _) idle
  exact cancels _ _ (open_.of_trace rfl) idle

theorem refillOfflineQueueFromStore_trace (s : State σ) (notify : Bool) :
    (refillOfflineQueueFromStore h s notify).trace = s.trace := by
  obtain ⟨queue, sessions, -, -, -, sent⟩ := refillOfflineQueueFromStore_extends h s notify
  rw [sent.trace]
  rfl

theorem acknowledgeInflight_trace (s : State σ) : (acknowledgeInflight s).trace = s.trace := by
  rcases acknowledgeInflight_cases s with ⟨-, same⟩ | ⟨-, -, same⟩ | ⟨-, same⟩
  · rw [same]
  · rw [same]
    rfl
  · rw [same, State.marked]
    split <;> rfl

theorem deliverHead_answered (open_ : Unanswered len s) (head : Frame) : Answered len (deliverHead s head) := by
  have fits := head.bounded.2
  have logged : Unanswered len (s.logWrite 0 head.buf.length) :=
    ⟨open_.contained.logWrite (by omega), open_.responses⟩
  unfold deliverHead
  have sent := writeFrameToCurrentTransport_transmits (s.logWrite 0 head.buf.length) head.buf
  generalize writeFrameToCurrentTransport (s.logWrite 0 head.buf.length) head.buf = outcome at sent
  obtain ⟨ok, middle⟩ := outcome
  have written := (logged.of_trace sent.trace).answered
  cases ok with
  | false => exact written
  | true =>
    dsimp only
    split <;> exact written.of_trace rfl

theorem syncNextMessage_answered (open_ : Unanswered len s) : Answered len (syncNextMessage h s) := by
  unfold syncNextMessage
  dsimp only
  split
  · exact sendResponseFrame_answered (open_.of_trace rfl) (answers_errFrame _)
  generalize acknowledged : acknowledgeInflight { s with lastSyncTime := h.currentTime s.host } = middle
  have acked : Unanswered len middle := by
    rw [← acknowledged]
    exact open_.of_trace (acknowledgeInflight_trace _)
  generalize refilled : (if middle.current.offline.isEmpty then refillOfflineQueueFromStore h middle false else middle)
    = final
  have filled : Unanswered len final := by
    rw [← refilled]
    split
    · exact acked.of_trace (refillOfflineQueueFromStore_trace h middle false)
    · exact acked
  split
  · exact sendResponseFrame_answered filled ⟨Nat.succ_pos 0, by decide⟩
  · exact deliverHead_answered filled _

theorem pushTelemetryResponse_answered (answered : Answered len s) {senderPrefix blob : List UInt8}
    (short : senderPrefix.length ≤ pubKeyPrefixSize) : Answered len (pushTelemetryResponse s senderPrefix blob) := by
  unfold pushTelemetryResponse
  split
  · exact answered
  · rename_i accepted
    rw [not_or] at accepted
    have total : ([pushCodeTelemetryResponse, 0] ++ senderPrefix ++ blob).length ≤ maxFrameSize := by
      simp only [List.length_append, List.length_cons, List.length_nil]
      unfold pushBlobMaxPayload pubKeyPrefixSize maxFrameSize at *
      omega
    have logged : Answered len (s.logWrite 0 ([pushCodeTelemetryResponse, 0] ++ senderPrefix ++ blob).length) :=
      ⟨answered.contained.logWrite (by omega), answered.once, answered.answers⟩
    exact logged.of_trace (sendPushFrame_transmits _ _).trace

theorem followBefore_trace (s : State σ) (follow : Follow) : (followBefore s follow).trace = s.trace := by
  cases follow with
  | disableTransport =>
    unfold followBefore disableTransport
    dsimp only
    split <;> rfl
  | nothing | refill | identityChanged | telemetry => rfl

theorem runCommand_answered (open_ : Unanswered frame.length s) (idle : s.current.pendingResponse = [])
    {command : CompanionCommand} (long : commandMinimumLength command ≤ frame.length) :
    Answered frame.length (runCommand h build s frame command) := by
  unfold runCommand
  have start : Safe ⟨frame.length⟩ (⟨s.host, !s.current.pendingResponse.isEmpty, s.trace⟩ : Work σ) :=
    ⟨open_.contained, by rw [idle]; rfl, open_.responses⟩
  obtain ⟨safe, sound⟩ := conducting_run (sessionCommand_conducts h build s.current long) start
  generalize (sessionCommand h build frame s.current command).run _ = result at safe sound
  obtain ⟨⟨connection, reply, follow⟩, work⟩ := result
  dsimp only at safe sound ⊢
  have ran : Unanswered frame.length
      (followBefore { s with current := connection, host := work.host, trace := work.trace } follow) :=
    Unanswered.of_trace (s := { s with current := connection, host := work.host, trace := work.trace })
      ⟨safe.contained, safe.responses⟩ (followBefore_trace _ follow)
  generalize followBefore { s with current := connection, host := work.host, trace := work.trace } follow =
    middle at ran
  have followed {s : State σ} (answered : Answered frame.length s) :
      Answered frame.length (followAfter h s follow) := by
    cases follow with
    | refill => exact answered.of_trace (refillOfflineQueueFromStore_trace h _ true)
    | telemetry senderPrefix blob => exact pushTelemetryResponse_answered answered (sound.telemetry _ _ rfl)
    | nothing | identityChanged | disableTransport => exact answered
  apply followed
  cases reply with
  | none => exact ran.answered
  | some reply => exact sendResponseFrame_answered ran (sound.reply reply rfl)

theorem dispatchCommand_answered (open_ : Unanswered frame.length s) (idle : s.current.pendingResponse = []) :
    Answered frame.length (dispatchCommand h build s frame) := by
  have read : Unanswered frame.length { s with trace := { s.trace with reads := s.trace.reads ++ [(0, 1)] } } := by
    refine ⟨⟨fun access member => ?_, open_.contained.writes, open_.contained.mutations⟩, open_.responses⟩
    rcases List.mem_append.mp member with old | new
    · exact open_.contained.reads access old
    · obtain rfl := List.mem_singleton.mp new
      exact Nat.add_le_add (Nat.zero_le _) (Nat.le_refl 1)
  unfold dispatchCommand
  dsimp only
  split
  · exact sendResponseFrame_answered read (answers_errFrame _)
  · split
    · exact sendResponseFrame_answered read (answers_errFrame _)
    · rename_i long
      split
      · exact syncNextMessage_answered h read
      · exact runCommand_answered h build read idle (Nat.not_lt.mp long)

/-- Every frame, in every state of the bridge: reads end at the terminator behind the frame, writes
    stay in the response buffer, one response at most is handed over, and the device does not change
    while an earlier response is pending. -/
theorem handleFrame_memory_safe (s : State σ) (frame : List UInt8) :
    Answered frame.length (handleFrame h build { s with trace := .empty } frame).2 := by
  have start : Unanswered frame.length { s with trace := .empty } := ⟨⟨nofun, nofun, nofun⟩, rfl⟩
  unfold handleFrame
  split
  · exact start.answered
  · dsimp only
    generalize received : State.note { s with trace := .empty } _ = noted
    have fresh : Unanswered frame.length noted := by
      rw [← received]
      exact start.of_trace rfl
    have refreshed := refreshConnectionSession_unanswered h fresh
    split
    · exact refreshed.answered
    · rename_i free
      have idle : (refreshConnectionSession h noted).current.pendingResponse = [] := by simpa using free
      obtain ⟨expired, still⟩ := expirePendingBinary_unanswered h refreshed idle
      exact dispatchCommand_answered h build expired still

end Frames

end SigurdOS.Companion
