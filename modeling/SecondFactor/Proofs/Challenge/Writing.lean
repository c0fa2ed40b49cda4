import SecondFactor.Challenge
import SecondFactor.Proofs.Text.Percent

/-! # Ways to write a challenge

A ticket carries its challenge as percent encoded JSON. Which of the characters are escaped is up to
the backend, and nothing that is read depends on it. -/

namespace SecondFactor

open Percent (Escapes Writes)

theorem Ticket.challengeText_marker (e : List Char) :
    challengeText? (marker ++ String.ofList e) = some e := by
  have hlist : (marker ++ String.ofList e).toList = marker.toList ++ e := by simp
  have hlength : marker.length = marker.toList.length := rfl
  unfold challengeText?
  rw [hlist, if_pos (by simp), hlength, List.drop_left]

namespace Challenge

/-- The challenge that a text writes in JSON, for a reader who can follow so many levels of
nesting. -/
def ofText (levels : Nat) (s : List Char) : Except Failure Challenge :=
  match Json.read levels (s.map .char) with
  | .error e => .error (unreadable e)
  | .ok payload => ofPayload payload

/-- However the text of a challenge is written in a ticket, the challenge is that of the text, and
where the text is none, the failure is the same. -/
theorem ofTicket_writes {s e : List Char} (h : Writes s e) (levels : Nat) :
    ofTicket levels (Ticket.marker ++ String.ofList e) = ofText levels s := by
  unfold ofTicket
  rw [Ticket.challengeText_marker]
  dsimp only
  rw [Percent.decode_writes h]
  rfl

/-- A challenge for recovery keys, one of which is named by two letters outside of ASCII. -/
def letteredText : List Char := "\x7b\"recovery\":[\"ü".toList ++ 'ü' :: "+\"]\x7d".toList

/-- The same text with an escape for the second letter, its digits in either case. -/
def letteredWriting : List Char :=
  "\x7b\"recovery\":[\"ü".toList ++ (['%', 'c', '3', '%', 'B', 'c'] ++ "+\"]\x7d".toList)

theorem ofTicket_writes_lettered :
    Writes letteredText letteredWriting ∧
      (∀ levels,
        ofTicket levels (Ticket.marker ++ String.ofList letteredWriting) =
          ofText levels letteredText) ∧
      (ofText 2 letteredText).toOption.map (·.recovery) = some (some [Text.ofString "üü+"]) := by
  have hletter : Escapes (Utf8.encodeChar 'ü') ['%', 'c', '3', '%', 'B', 'c'] :=
    .cons (.inl rfl) (.inl rfl) (.cons (.inr rfl) (.inl rfl) .nil)
  have hrest : Writes ("+\"]\x7d".toList ++ []) ("+\"]\x7d".toList ++ []) :=
    .literals (by decide) .nil
  rw [List.append_nil] at hrest
  have h : Writes letteredText letteredWriting := .literals (by decide) (.escaped hletter hrest)
  exact ⟨h, ofTicket_writes h, by decide +kernel⟩

end Challenge

end SecondFactor
