import KungFuChess.Client.LobbyRequests
import KungFuChess.Gateway.RoomManager

/-!
# Rooms between the lobby client and the gateway

The client trims a room name and spells a code before it sends them, and the gateway
does so again with rules of its own: it strips the white space of Unicode and counts
bytes. What the player can type is printable ASCII, where both agree.
-/

set_option autoImplicit false

namespace KungFuChess

/-! ## The gateway's codes -/

/-- `ROOM_CODE_ALPHABET`. -/
def roomCodeAlphabet : List Char := "ABCDEFGHJKLMNPQRSTUVWXYZ23456789".toList

/-- What `_new_room_code_locked` can draw. -/
def IsRoomCode (code : String) : Prop :=
  code.length = 6 ∧ ∀ character ∈ code.toList, character ∈ roomCodeAlphabet

instance : DecidablePred IsRoomCode := fun _ => inferInstanceAs (Decidable (_ ∧ _))

/-- `strip().upper()`, on ASCII. -/
def normalizeRoomCode (value : String) : String := (RoomName.strip value).map Char.toUpper

namespace Lobby

/-! ## Printable text -/

/-- In printable ASCII only the blank is white space, for either side. -/
theorem isSpace_of_isPrint {character : Char} (printed : isPrint character = true) :
    RoomName.isSpace character = Username.isSpace character := by
  obtain ⟨low, high⟩ : 0x20 ≤ character.toNat ∧ character.toNat ≤ 0x7E := by
    simpa [isPrint] using printed
  have blank : character = ' ' ↔ character.toNat = 0x20 := by
    rw [← Char.toNat_inj]
    rfl
  simp only [RoomName.isSpace, Username.isSpace, blank]
  rw [Bool.eq_iff_iff]
  simp only [Bool.or_eq_true, Bool.and_eq_true, decide_eq_true_eq]
  omega

theorem dropWhile_congr {keep also : Char → Bool} : ∀ {letters : List Char},
    (∀ letter ∈ letters, keep letter = also letter) →
      letters.dropWhile keep = letters.dropWhile also := by
  intro letters
  induction letters with
  | nil => exact fun _ => rfl
  | cons first rest ih =>
      intro same
      rw [List.dropWhile_cons, List.dropWhile_cons, same first List.mem_cons_self,
        ih fun letter isLetter => same letter (List.mem_cons_of_mem _ isLetter)]

/-- Stripping on the gateway is trimming on the client. -/
theorem strip_of_printable {limit : Nat} {text : String} (printable : Printable limit text) :
    RoomName.strip text = trimRoomName text := by
  have same : ∀ letter ∈ text.toList, RoomName.isSpace letter = Username.isSpace letter :=
    fun letter isLetter => isSpace_of_isPrint (printable.2 letter isLetter)
  unfold RoomName.strip trimRoomName Username.trim
  rw [dropWhile_congr same, List.rdropWhile, List.rdropWhile]
  refine congrArg (fun letters : List Char => String.ofList letters.reverse) (dropWhile_congr ?_)
  intro letter isLetter
  exact same letter (List.dropWhile_subset _ (List.mem_reverse.mp isLetter))

/-- Printable text has one byte a character. -/
theorem utf8ByteSize_of_printable {limit : Nat} {text : String}
    (printable : Printable limit text) : text.utf8ByteSize = text.length := by
  have counted : ∀ letters : List Char, (∀ letter ∈ letters, isPrint letter = true) →
      (String.ofList letters).utf8ByteSize = letters.length := by
    intro letters
    induction letters with
    | nil => exact fun _ => rfl
    | cons first rest ih =>
        intro printed
        have one : first.utf8Size = 1 := by
          have high := printed first List.mem_cons_self
          rw [isPrint, Bool.and_eq_true, decide_eq_true_eq, decide_eq_true_eq] at high
          rw [Char.utf8Size_eq_one_iff, UInt32.le_iff_toNat_le]
          exact high.2.trans (by decide)
        rw [← List.singleton_append, String.ofList_append, String.utf8ByteSize_append,
          ← String.singleton_eq_ofList, String.utf8ByteSize_singleton, one,
          ih fun letter isLetter => printed letter (List.mem_cons_of_mem _ isLetter),
          List.singleton_append, List.length_cons, Nat.add_comm]
  have whole := counted text.toList printable.2
  rwa [String.ofList_toList, String.length_toList] at whole

/-! ## Codes -/

/-- The characters of a code are letters and digits in upper case. -/
theorem of_mem_codeAlphabet {character : Char} (member : character ∈ codeAlphabet) :
    isPrint character = true ∧ Username.isSpace character = false ∧
      character.toUpper = character ∧ character.isAlphanum = true := by
  have every : ∀ letter ∈ codeAlphabet, isPrint letter = true ∧ Username.isSpace letter = false ∧
      letter.toUpper = letter ∧ letter.isAlphanum = true := by decide
  exact every character member

/-- A code is sent as it is. -/
theorem normalizeHiddenCode_of_code {code : String}
    (inside : ∀ character ∈ code.toList, character ∈ codeAlphabet) :
    normalizeHiddenCode code = code := by
  have kept : ∀ letters normalized : List Char, (∀ letter ∈ letters, letter ∈ codeAlphabet) →
      letters.foldlM normalizeStep normalized = some (normalized ++ letters) := by
    intro letters
    induction letters with
    | nil => exact fun normalized _ => congrArg some (List.append_nil normalized).symm
    | cons first rest ih =>
        intro normalized inside
        have isFirst := inside first List.mem_cons_self
        obtain ⟨_, solid, upper, _⟩ := of_mem_codeAlphabet isFirst
        rw [List.foldlM_cons, normalizeStep, if_neg (ne_true_of_eq_false solid), upper,
          if_pos (List.contains_iff_mem.mpr isFirst)]
        refine (ih _ fun letter isLetter => inside letter (List.mem_cons_of_mem _ isLetter)).trans ?_
        rw [List.append_assoc]
        rfl
  rw [normalizeHiddenCode, kept code.toList [] inside]
  exact String.ofList_toList

/-- The gateway leaves a code as it is. -/
theorem normalizeRoomCode_of_code {code : String} (isCode : IsRoomCode code) :
    normalizeRoomCode code = code := by
  have solid : ∀ letters : List Char, (∀ letter ∈ letters, letter ∈ codeAlphabet) →
      letters.dropWhile RoomName.isSpace = letters := by
    intro letters inside
    cases letters with
    | nil => rfl
    | cons first rest =>
        obtain ⟨printed, solid, _⟩ := of_mem_codeAlphabet (inside first List.mem_cons_self)
        rw [← isSpace_of_isPrint printed] at solid
        exact List.dropWhile_cons_of_neg (ne_true_of_eq_false solid)
  have inside : ∀ letter ∈ code.toList, letter ∈ codeAlphabet := isCode.2
  unfold normalizeRoomCode RoomName.strip
  rw [solid _ inside, List.rdropWhile, solid _ fun letter isLetter =>
    inside letter (List.mem_reverse.mp isLetter), List.reverse_reverse, String.ofList_toList]
  rw [← String.toList_inj, String.toList_map]
  refine (List.map_congr_left fun letter isLetter => ?_).trans (List.map_id _)
  exact (of_mem_codeAlphabet (inside letter isLetter)).2.2.1

namespace LobbyController

/-- The dialog for a code is open on the lobby. -/
structure Entering (controller : LobbyController) (typed : List Char) : Prop where
  enabled : controller.state.networkActionsEnabled = true
  modal : controller.state.view.modal = .joinHiddenRoom
  input : controller.state.form.hiddenRoomCodeInput = String.ofList typed

/-- A character of a code is taken in upper case. -/
theorem Entering.character {controller : LobbyController} {typed : List Char}
    (entering : Entering controller typed) (short : typed.length < 6) {value : Char}
    (alphanumeric : value.toUpper.isAlphanum = true) :
    Entering (controller.inputCharacter value) (typed ++ [value.toUpper]) := by
  have screen : controller.state.view.screen = .lobby := by
    have enabled := entering.enabled
    rw [LobbyApplicationState.networkActionsEnabled, Bool.and_eq_true, Bool.and_eq_true,
      decide_eq_true_eq] at enabled
    exact enabled.1.1
  have away : controller.state.view.screen ≠ .authentication := by
    rw [screen]
    decide
  have fits : controller.state.form.hiddenRoomCodeInput.length < 6 := by
    rw [entering.input, String.length_ofList]
    exact short
  have entered : controller.inputCharacter value = controller.setForm { controller.state.form with
      hiddenRoomCodeInput := controller.state.form.hiddenRoomCodeInput.push value.toUpper } := by
    unfold inputCharacter
    simp only [if_neg away, entering.modal, alphanumeric, fits, and_self, if_true]
  rw [entered]
  refine ⟨entering.enabled, entering.modal, ?_⟩
  change controller.state.form.hiddenRoomCodeInput.push value.toUpper = _
  rw [entering.input, ← String.toList_inj, String.toList_push, String.toList_ofList,
    String.toList_ofList]

/-- Typing, as inputs. -/
def typing (replies : TransportReplies) (typed : List Char) :
    List (TransportReplies × LobbyInput) :=
  typed.map fun value => (replies, .character value)

theorem Entering.typing (replies : TransportReplies) :
    ∀ (rest : List Char) {controller : LobbyController} {typed : List Char},
      Entering controller typed → typed.length + rest.length ≤ 6 →
      (∀ value ∈ rest, value.toUpper.isAlphanum = true) →
      Entering (Trace.run step controller (typing replies rest))
        (typed ++ rest.map Char.toUpper) := by
  intro rest
  induction rest with
  | nil =>
      intro controller typed entering _ _
      rw [List.map_nil, List.append_nil]
      exact entering
  | cons value rest ih =>
      intro controller typed entering short alphanumeric
      rw [List.length_cons] at short
      have next := entering.character (by omega) (alphanumeric value List.mem_cons_self)
      have rested := ih next (by rw [List.length_append, List.length_singleton]; omega)
        fun other isOther => alphanumeric other (List.mem_cons_of_mem _ isOther)
      rw [List.append_assoc, List.singleton_append, ← List.map_cons] at rested
      exact rested

/-- Entering a code sends it. -/
theorem Entering.submits {controller : LobbyController} {typed : List Char} {code : String}
    (entering : Entering controller typed) (isCode : IsRoomCode code) (spells : typed = code.toList)
    (replies : TransportReplies) :
    (controller.receive replies .enter).1 = [.joinHiddenRoom code] := by
  have normalized : normalizeHiddenCode controller.state.form.hiddenRoomCodeInput = code := by
    rw [entering.input, spells, String.ofList_toList, normalizeHiddenCode_of_code isCode.2]
  rw [receive, handleEnter]
  simp only [entering.modal, handle, submitHiddenCode, normalized]
  rw [if_neg (not_not.mpr isCode.1), roomAction, if_pos entering.enabled]

/-- The dialog for a code opens empty, whenever the lobby takes actions. -/
theorem entering_openJoinHidden {controller : LobbyController}
    (enabled : controller.state.networkActionsEnabled = true) (replies : TransportReplies) :
    Entering (controller.step (replies, .action .openJoinHidden)) [] := by
  rw [step, receive, handle]
  simp only [if_pos enabled]
  exact ⟨enabled, rfl, rfl⟩

/-- **What the client submits about rooms, the gateway takes as it is.** In every run of
the lobby client, a room name and its visibility pass the checks of the gateway
unchanged; and whenever the lobby takes actions, opening the dialog and typing a code of
the gateway in any case sends exactly that code, which the gateway leaves as it is. -/
theorem run_roomForms (inputs : List (TransportReplies × LobbyInput)) :
    (∀ visit ∈ Trace.visits step {} inputs,
      ∀ name hidden, .createRoom name hidden ∈ (visit.1.receive visit.2.1 visit.2.2).1 →
        RoomName.validate (some name) = .ok name) ∧
    ∀ code typed replies, IsRoomCode code → typed.map Char.toUpper = code.toList →
      (Trace.run step {} inputs).state.networkActionsEnabled = true →
      ((Trace.run step {} (inputs ++ (replies, .action .openJoinHidden) ::
          typing replies typed)).receive replies .enter).1 = [.joinHiddenRoom code] ∧
        normalizeRoomCode code = code := by
  refine ⟨?_, ?_⟩
  · intro visit member name hidden isCall
    obtain ⟨_, named, printable, trimmed⟩ := (visits_fine member).2 _ isCall
    have stripped : RoomName.strip name = name := (strip_of_printable printable).trans trimmed
    have short : ¬ RoomName.maxBytes < name.utf8ByteSize := by
      rw [utf8ByteSize_of_printable printable]
      exact not_lt.mpr printable.1
    simp only [RoomName.validate, stripped]
    rw [if_neg named, if_neg short]
  · intro code typed replies isCode spells enabled
    have six : typed.length = 6 := by
      rw [← isCode.1, ← String.length_toList, ← spells, List.length_map]
    have alphanumeric : ∀ value ∈ typed, value.toUpper.isAlphanum = true := by
      intro value member
      have inCode : value.toUpper ∈ code.toList := spells ▸ List.mem_map_of_mem member
      exact (of_mem_codeAlphabet (isCode.2 _ inCode)).2.2.2
    have entered := (entering_openJoinHidden enabled replies).typing replies typed
      (by rw [List.length_nil, Nat.zero_add, six]) alphanumeric
    rw [Trace.run_append, Trace.run_cons]
    exact ⟨entered.submits isCode spells replies, normalizeRoomCode_of_code isCode⟩

/-- The lobby has arrived. -/
def inLobby : List (TransportReplies × LobbyInput) :=
  [({}, .tick { connectionState := .connected, events := [.protocol (.lobbySnapshot [] [])] })]

theorem run_roomForms_lowerCase :
    ((Trace.run step {} (inLobby ++ ({}, .action .openJoinHidden) ::
      typing {} "ab2c3d".toList)).receive {} .enter).1 = [.joinHiddenRoom "AB2C3D"] :=
  ((run_roomForms inLobby).2 "AB2C3D" "ab2c3d".toList {} (by decide) (by decide) (by decide)).1

end LobbyController

end Lobby

end KungFuChess
