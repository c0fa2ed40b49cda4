import Mathlib.Data.List.TakeWhile
import SecondFactor.Proofs.Http.Resolving
import SecondFactor.Proofs.Login.Requests

/-! # Where the requests of a login go

A host that is given is still there when a URL was brought into normal form, however it is written.
Hence all that is sent for a login goes to the place to which the ticket path was resolved. -/

namespace SecondFactor

namespace Http

theorem eq_of_guarded {ε α : Type} {c : Prop} [Decidable c] {e : ε} {a b : α}
    (h : (do
      if c then throw e
      return a : Except ε α) = .ok b) : a = b := by
  by_cases hc : c
  · rw [if_pos hc] at h
    cases h
  · rw [if_neg hc] at h
    cases h
    rfl

/-! ## Hosts -/

theorem Label.encode_ne_nil {label ascii : List Char} (h : encode label = .ok ascii) :
    ascii ≠ [] := by
  have hnil : decode [] = .error .malformed := by decide +kernel
  unfold encode at h
  split at h
  · obtain ⟨points, hpoints, h⟩ := exists_of_bind h
    obtain ⟨_, hwritten, h⟩ := exists_of_bind h
    cases hwritten
    cases eq_of_guarded h
    rintro rfl
    rw [hnil] at hpoints
    cases hpoints
  · obtain ⟨-, -, h⟩ := exists_of_bind h
    obtain ⟨_, hwritten, h⟩ := exists_of_bind h
    cases hwritten
    cases eq_of_guarded h
    exact List.append_ne_nil_of_left_ne_nil (List.cons_ne_nil _ _) _

namespace HostName

theorem labels_ne_nil {name : List Char} {parts : List (List Char)} {closed : Bool}
    (h : labels name = .ok (parts, closed)) : parts ≠ [] := by
  unfold labels at h
  dsimp only at h
  split at h
  · cases h
  · rename_i hname
    have hname : name ≠ [] := by
      rintro rfl
      exact hname rfl
    split at h
    · rename_i hlast
      cases h
      intro hnil
      have hall := List.dropLast_append_getLast? [] hlast
      rw [hnil] at hall
      exact Split.atEach_ne_singleton hname hall.symm
    · cases h
      exact Split.atEach_ne_nil isPoint name

theorem encode_ne_nil {name ascii : List Char} (h : encode name = .ok ascii) : ascii ≠ [] := by
  unfold encode at h
  obtain ⟨⟨parts, closed⟩, hlabels, h⟩ := exists_of_bind h
  obtain ⟨written, hwritten, h⟩ := exists_of_bind h
  obtain ⟨part, others, rfl⟩ := List.exists_cons_of_ne_nil (labels_ne_nil hlabels)
  rw [List.mapM_cons] at hwritten
  obtain ⟨label, hlabel, hwritten⟩ := exists_of_bind hwritten
  obtain ⟨labels, -, hwritten⟩ := exists_of_bind hwritten
  cases hwritten
  have hfront (rest : List (List Char)) : Split.join '.' (label :: rest) ≠ [] :=
    Split.join_ne_nil (Label.encode_ne_nil hlabel) rest
  cases closed with
  | true =>
    rw [← eq_of_guarded h]
    exact hfront (labels ++ [[]])
  | false =>
    rw [← eq_of_guarded h]
    exact hfront labels

end HostName

theorem quote_ne_nil (safe : Char → Bool) {s : List Char} (hs : s ≠ []) :
    Percent.quote safe s ≠ [] := by
  have hescape (c : Char) : Percent.escapeChar c ≠ [] := by
    have hbytes : Utf8.encodeChar c ≠ [] := by
      simp only [Utf8.encodeChar]
      split_ifs <;> exact List.cons_ne_nil _ _
    obtain ⟨b, bs, hb⟩ := List.exists_cons_of_ne_nil hbytes
    rw [Percent.escapeChar, hb]
    exact List.cons_ne_nil _ _
  have hfront (c : Char) : (if safe c then [c] else Percent.escapeChar c) ≠ [] := by
    split
    · exact List.cons_ne_nil _ _
    · exact hescape c
  unfold Percent.quote
  split
  · split
    · exact List.cons_ne_nil _ _
    · exact List.append_ne_nil_of_left_ne_nil (hfront '%') _
  · exact List.append_ne_nil_of_left_ne_nil (hfront _) _
  · exact absurd rfl hs

namespace Url

theorem readHost_isEmpty {s : List Char} (hs : s ≠ []) {host : String} (h : readHost s = .ok host) :
    host.isEmpty = false := by
  have hlist {l : List Char} (hl : l ≠ []) : (String.ofList l).isEmpty = false := by
    simpa using hl
  unfold readHost at h
  dsimp only at h
  split at h
  · rename_i hnil
    exact absurd (List.isEmpty_iff.mp hnil) hs
  · split at h
    · split at h
      · cases h
        exact hlist hs
      · cases h
    · split at h
      · split at h
        · rename_i hv6
          cases h
          refine hlist ?_
          intro hnil
          rw [hnil] at hv6
          exact absurd hv6 (by decide)
        · cases h
      · split at h
        · cases h
          exact hlist (quote_ne_nil _ (by simpa using hs))
        · split at h
          · rename_i name hname
            cases h
            exact hlist (HostName.encode_ne_nil hname)
          · cases h

/-! ## Sites -/

theorem split_site (site : Site) (path : List Char) :
    ∃ query fragment path', split (site.text ++ '/' :: path) =
      { scheme := site.scheme, authority := site.authority, path := path', query, fragment } := by
  have htext : site.text ++ '/' :: path =
      site.scheme ++ ':' :: '/' :: '/' :: (site.authority ++ '/' :: path) := by
    simp [Site.text]
  have hscheme : ∀ c ∈ site.scheme, (c == ':') = false :=
    fun c hc => beq_eq_false_iff_ne.mpr (site.scheme_chars c hc).2
  have hletters : site.scheme.isEmpty = false ∧
      (site.scheme.head?.any Char.isAlpha && site.scheme.all Reference.isSchemeChar) = true := by
    unfold Site.scheme
    cases site.secure <;> decide
  unfold split
  rw [htext, Split.cut_append hscheme (beq_self_eq_true ':')]
  simp only [List.isEmpty_cons, hletters, Bool.false_eq_true, if_false, if_true, List.drop_succ_cons,
    List.drop_zero, site.cut_authority]
  exact ⟨_, _, _, rfl⟩

theorem cut_host (site : Site) : (Split.cut (· == ':') site.authority).1 = site.host := by
  have hhost : ∀ c ∈ site.host, (c == ':') = false := by
    intro c hc
    have hchar := site.host_chars c hc
    rw [beq_eq_false_iff_ne]
    rintro rfl
    exact absurd hchar (by decide)
  unfold Site.authority
  cases site.portNumber with
  | none => rw [List.append_nil, Split.cut_of_forall hhost]
  | some number => rw [Split.cut_append hhost (beq_self_eq_true ':')]

theorem splitAuthority_site (site : Site) :
    ∃ digits, splitAuthority site.authority = ([], site.host, digits) := by
  have hplain {d : Char} (hd : d ∈ ['/', '?', '#', ';', '@', '[', ']']) :
      ∀ c ∈ site.authority, c ≠ d := fun c hc => (site.plain_authority c hc).ne hd
  have hhostPort : (site.authority.reverse.takeWhile (· ≠ '@')).reverse = site.authority := by
    rw [List.takeWhile_eq_self_iff.mpr, List.reverse_reverse]
    intro c hc
    exact decide_eq_true (hplain (by decide) c (List.mem_reverse.mp hc))
  have hhead : site.authority.head? ≠ some '[' :=
    fun hhead => hplain (d := '[') (by decide) '[' (List.mem_of_head? hhead) rfl
  unfold splitAuthority
  simp only [hhostPort, hhead, if_false, List.isEmpty_nil, if_true, cut_host, Nat.sub_self,
    List.take_zero, List.dropLast_nil]
  exact ⟨_, rfl⟩

theorem ofParts_of_parse {s : List Char} {u : Url} (h : parse s = .ok u) :
    ofParts (split s) = .ok u := by
  unfold parse at h
  by_cases hlong : maxLength < s.length
  · rw [if_pos hlong] at h
    cases h
  · rw [if_neg hlong] at h
    cases hcontrol : controlMessage? "" s with
    | some message =>
      rw [hcontrol] at h
      cases h
    | none =>
      rw [hcontrol] at h
      exact h

/-- A URL with a site in front is not relative. -/
theorem isRelative_of_parse {site : Site} {path : List Char} {u : Url}
    (h : parse (site.text ++ '/' :: path) = .ok u) : u.isRelative = false := by
  obtain ⟨query, fragment, path', hsplit⟩ := split_site site path
  obtain ⟨digits, hauthority⟩ := splitAuthority_site site
  have hparts : ofParts (split (site.text ++ '/' :: path)) = .ok u := ofParts_of_parse h
  rw [hsplit] at hparts
  unfold ofParts at hparts
  rw [hauthority] at hparts
  obtain ⟨host, hhost, hparts⟩ := exists_of_bind hparts
  obtain ⟨number, -, hparts⟩ := exists_of_bind hparts
  obtain ⟨-, -, hparts⟩ := exists_of_bind hparts
  cases hparts
  have hscheme : (String.ofList (site.scheme.map Char.toLower)).isEmpty = false := by
    unfold Site.scheme
    cases site.secure <;> decide
  rw [isRelative, hscheme, readHost_isEmpty site.host_ne_nil hhost, Bool.or_self]

end Url

/-! ## Requests -/

/-- Whether a request was made for a ticket by a client with these settings, which resolved the
ticket path to this text and made a URL of nothing else. -/
def Request.HandedOver (settings : Settings) (place : List Char) (r : Request) : Prop :=
  ∃ (c : Client) (form : List Form.Field), c.settings = settings ∧
    c.resolve (c.ticketCall form).endpoint = .ok place ∧ c.request (c.ticketCall form) = .ok r ∧
    Url.parse place = .ok r.url

theorem Request.MadeWith.handedOver {settings : Settings} {r : Request} (h : r.MadeWith settings)
    {site : Site} {base path : List Segment} {slashes slashes' : Nat} (hpath : path ≠ [])
    (hbase : settings.baseUrl = site.baseUrl base slashes)
    (hticket : settings.ticketPath = endpoint slashes' path) :
    r.HandedOver settings (site.place (base ++ path)) := by
  obtain ⟨c, form, -, rfl, hcall⟩ := h
  have hresolve : c.resolve (c.ticketCall form).endpoint = .ok (site.place (base ++ path)) := by
    rw [Client.ticketCall, hticket]
    exact Client.resolve_endpoint hbase hpath
  refine ⟨c, form, rfl, hresolve, hcall, ?_⟩
  have htarget := (Client.request_ok hcall).1
  unfold Client.target at htarget
  rw [hresolve] at htarget
  obtain ⟨place, hplace, htarget⟩ := exists_of_bind htarget
  cases hplace
  obtain ⟨url, hparse, htarget⟩ := exists_of_bind htarget
  have habsolute : url.isRelative = false := Url.isRelative_of_parse hparse
  dsimp only at htarget
  rw [habsolute, if_neg Bool.false_ne_true] at htarget
  cases htarget
  exact hparse

end Http

namespace Login.World

open Http (Segment Site endpoint)

variable {ν : Type}

/-- Whatever a base URL has for segments, and however many slashes stand behind them and before those
of the ticket path, every call for a ticket is resolved to all segments of both, with one slash before
each, and nothing that is sent goes anywhere else. -/
theorem sent_below_base (site : Site) (base : List Segment) (slashes : Nat) (first : Segment)
    (rest : List Segment) (slashes' : Nat) (client : Http.Client) (script : Nat → Http.Outcome)
    (held : Nat → Bool) (adapter : Option Key.Adapter) (store : Store) (ms : List (Move ν)) :
    let path := first :: rest
    let set : Http.Client := { client with
      settings := { client.settings with
        baseUrl := site.baseUrl base slashes
        ticketPath := endpoint slashes' path } }
    (∀ form, set.resolve (set.ticketCall form).endpoint = .ok (site.place (base ++ path))) ∧
    ∀ r ∈ ((opening set script held adapter store).moves script ms).sent,
      r.HandedOver set.settings (site.place (base ++ path)) := by
  intro path set
  refine ⟨fun form => ?_, fun r hr => ?_⟩
  · exact Http.Client.resolve_endpoint (c := set) rfl (List.cons_ne_nil first rest)
  · have hmade := (recorded_moves set script held adapter store ms).made r hr
    exact hmade.handedOver (List.cons_ne_nil first rest) rfl rfl

end Login.World

end SecondFactor
