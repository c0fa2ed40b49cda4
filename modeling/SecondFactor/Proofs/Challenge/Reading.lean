import SecondFactor.Proofs.Challenge.Writing
import SecondFactor.Proofs.Json.Nesting

/-! # Tickets that carry no challenge

Whatever is wrong with the challenge of a ticket, reading it ends in one kind of failure, unless its
JSON is nested too deep to be read at all. -/

namespace SecondFactor.Challenge

/-- The text that a ticket carries, without its escapes. -/
def text? (ticket : String) : Option (List Char) :=
  (Ticket.challengeText? ticket).bind Percent.decode

/-- Whether reading a challenge gave one, or failed because there is none. -/
def Settles (x : Except Failure Challenge) : Prop :=
  (∃ c, x = .ok c) ∨ ∃ f e, x = .error f ∧ f.loginError? = some e ∧ e.kind = .malformedChallenge

/-- Whether something failed because a challenge is malformed. -/
def Refused {α : Type} (x : Except Failure α) : Prop :=
  ∃ f e, x = .error f ∧ f.loginError? = some e ∧ e.kind = .malformedChallenge

theorem settles_ofPayload (v : Json) : Settles (ofPayload v) := by
  unfold ofPayload
  split
  · split
    · exact .inl ⟨_, rfl⟩
    · exact .inr ⟨_, _, rfl, rfl, rfl⟩
  · exact .inr ⟨_, _, rfl, rfl, rfl⟩

/-- A text that is nested too deep is the only one that fails in another way. -/
theorem settles_ofText {levels : Nat} {s : List Char}
    (h : Json.read levels (s.map .char) ≠ .error .tooDeep) : Settles (ofText levels s) := by
  unfold ofText
  cases hread : Json.read levels (s.map .char) with
  | ok payload => exact settles_ofPayload payload
  | error e =>
    cases e with
    | tooDeep => exact absurd hread h
    | malformed | integerTooLong => exact .inr ⟨_, _, rfl, rfl, rfl⟩

theorem ofText_nested {levels : Nat} {s : List Char}
    (h : Json.read levels (s.map .char) = .error .tooDeep) :
    ofText levels s = .error (.foreign .nestedTooDeep) := by
  unfold ofText
  rw [h]
  rfl

theorem not_settles_foreign (cause : Foreign) : ¬ Settles (.error (.foreign cause)) := by
  rintro (⟨c, hc⟩ | ⟨f, e, hf, he, -⟩)
  · cases hc
  · cases hf
    cases he

theorem ofTicket_of_text {ticket : String} {s : List Char} (h : text? ticket = some s)
    (levels : Nat) : ofTicket levels ticket = ofText levels s := by
  obtain ⟨encoded, hencoded, hs⟩ := Option.bind_eq_some_iff.mp h
  unfold ofTicket
  rw [hencoded]
  dsimp only
  rw [hs]
  rfl

theorem settles_of_no_text {ticket : String} (h : text? ticket = none) (levels : Nat) :
    Settles (ofTicket levels ticket) := by
  unfold text? at h
  unfold ofTicket
  cases hencoded : Ticket.challengeText? ticket with
  | none => exact .inr ⟨_, _, rfl, rfl, rfl⟩
  | some encoded =>
    rw [hencoded, Option.bind_some] at h
    dsimp only
    rw [h]
    exact .inr ⟨_, _, rfl, rfl, rfl⟩

/-- Reading the challenge of a ticket, whatever the ticket is and however many levels of nesting can
be followed, gives a challenge or fails because there is none, exactly if no JSON that is nested
deeper stands in it. No text is nested deeper that opens no more arrays and objects than there are
levels, and there is no other failure. -/
theorem ofTicket_settles_iff (levels : Nat) (ticket : String) :
    (Settles (ofTicket levels ticket) ↔
      ∀ s, text? ticket = some s → Json.read levels (s.map .char) ≠ .error .tooDeep) ∧
    ((∀ s, text? ticket = some s → (s.map .char).countP Json.opens ≤ levels) →
      Settles (ofTicket levels ticket)) ∧
    (Settles (ofTicket levels ticket) ∨
      ofTicket levels ticket = .error (.foreign .nestedTooDeep)) := by
  have hread (s : List Char) (hs : (s.map .char).countP Json.opens ≤ levels) :
      Json.read levels (s.map .char) ≠ .error .tooDeep := fun h =>
    Nat.not_lt_of_le hs (Json.opens_of_tooDeep h)
  cases htext : text? ticket with
  | none =>
    have hsettles := settles_of_no_text htext levels
    refine ⟨⟨fun _ s hs => ?_, fun _ => hsettles⟩, fun _ => hsettles, .inl hsettles⟩
    cases hs
  | some s =>
    rw [ofTicket_of_text htext]
    by_cases hnested : Json.read levels (s.map .char) = .error .tooDeep
    · have hfails := ofText_nested hnested
      have hnot : ¬ Settles (ofText levels s) := hfails ▸ not_settles_foreign .nestedTooDeep
      refine ⟨⟨fun h => absurd h hnot, fun h => absurd hnested (h s rfl)⟩, fun h => ?_, .inr hfails⟩
      exact absurd hnested (hread s (h s rfl))
    · have hsettles := settles_ofText hnested
      refine ⟨⟨fun _ s' hs' => ?_, fun _ => hsettles⟩, fun _ => hsettles, .inl hsettles⟩
      cases hs'
      exact hnested

/-- So many brackets and nothing else. -/
def brackets (number : Nat) : List Char := List.replicate number '['

theorem text_brackets (number : Nat) :
    text? (Ticket.marker ++ String.ofList (brackets number)) = some (brackets number) := by
  have hplain : '%' ∉ brackets number := fun h => absurd (List.eq_of_mem_replicate h) (by decide)
  have hwrites : Percent.Writes (brackets number ++ []) (brackets number ++ []) :=
    .literals hplain .nil
  rw [List.append_nil] at hwrites
  rw [text?, Ticket.challengeText_marker, Option.bind_some, Percent.decode_writes hwrites]

/-- A ticket that carries nothing but brackets, more of them than there are levels, is not said to
carry no challenge. -/
theorem ofTicket_brackets {levels number : Nat} (h : levels < number) :
    ofTicket levels (Ticket.marker ++ String.ofList (brackets number)) =
      .error (.foreign .nestedTooDeep) := by
  have hsplit : (brackets number).map CodePoint.char =
      List.replicate (levels + 1) (.char '[') ++
        List.replicate (number - (levels + 1)) (.char '[') := by
    rw [brackets, List.map_replicate, List.replicate_append_replicate, Nat.add_sub_of_le h]
  rw [ofTicket_of_text (text_brackets number)]
  exact ofText_nested (hsplit ▸ Json.read_brackets levels _)

/-- Whoever can follow 995 levels does not say of 20000 brackets that they are no challenge. -/
theorem brackets_escape :
    ofTicket 995 (Ticket.marker ++ String.ofList (brackets 20000)) =
        .error (.foreign .nestedTooDeep) ∧
      ¬ Settles (ofTicket 995 (Ticket.marker ++ String.ofList (brackets 20000))) := by
  have hfails := ofTicket_brackets (show 995 < 20000 by decide)
  exact ⟨hfails, hfails ▸ not_settles_foreign .nestedTooDeep⟩

end SecondFactor.Challenge
