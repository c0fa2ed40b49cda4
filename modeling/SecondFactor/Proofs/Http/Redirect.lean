import SecondFactor.Http.Client

/-! # Where a response leads

A response that leads elsewhere is checked for a place to which a request could be made. Whatever is
wrong with the place, no fault of the transport is reported, but for that of a peer who breaks the
protocol. -/

namespace SecondFactor

/-- Whether a failure is no fault of the transport, or that of a peer who breaks the protocol. -/
def Foreign.IsPeers (f : Foreign) : Prop :=
  ∀ e message, f = .transport e message → e = .remoteProtocol

/-- Whether a computation fails in such ways only. -/
def BlamesPeer {α : Type} (x : Except Foreign α) : Prop := ∀ f, x = .error f → f.IsPeers

namespace BlamesPeer

variable {α β : Type}

theorem ok (a : α) : BlamesPeer (.ok a : Except Foreign α) := by
  intro f hf
  cases hf

theorem error {f : Foreign} (hf : f.IsPeers) : BlamesPeer (.error f : Except Foreign α) := by
  intro g hg
  cases hg
  exact hf

theorem bind {x : Except Foreign α} {g : α → Except Foreign β} (hx : BlamesPeer x)
    (hg : ∀ a, BlamesPeer (g a)) : BlamesPeer (x >>= g) := by
  cases x with
  | error f => exact error (hx f rfl)
  | ok a => exact hg a

theorem ite {c : Prop} [Decidable c] {x y : Except Foreign α} (hx : BlamesPeer x)
    (hy : BlamesPeer y) : BlamesPeer (if c then x else y) := by
  split
  · exact hx
  · exact hy

end BlamesPeer

theorem Foreign.isPeers_badValue (message : String) : (badValue message).IsPeers := nofun

theorem Foreign.isPeers_invalidUrl (message : String) : (invalidUrl message).IsPeers := nofun

namespace Http

open Foreign

/-! ## References -/

theorem Address.blamesPeer_checkBracketed (s : List Char) : BlamesPeer (checkBracketed s) := by
  unfold checkBracketed
  refine .ite (.ite (.ok _) (.error (isPeers_badValue _))) ?_
  exact .ite (.error (isPeers_badValue _)) (.ite (.ok _) (.error (isPeers_badValue _)))

namespace Reference

theorem blamesPeer_checkBrackets (s : List Char) : BlamesPeer (checkBrackets s) := by
  unfold checkBrackets
  dsimp only
  split
  · exact .ite (.error (isPeers_badValue _)) (Address.blamesPeer_checkBracketed _)
  · exact Address.blamesPeer_checkBracketed _

theorem blamesPeer_checkAuthority (s : List Char) : BlamesPeer (checkAuthority s) := by
  have hplain : BlamesPeer (if s.any fun c => disguised.contains c.toNat then
      throw (badValue ("netloc '" ++ String.ofList s
        ++ "' contains invalid characters under NFKC normalization")) else pure () : Except Foreign Unit) :=
    .ite (.error (isPeers_badValue _)) (.ok ())
  unfold checkAuthority
  refine .ite (.error (isPeers_badValue _)) (.ite ?_ hplain)
  exact (blamesPeer_checkBrackets s).bind fun _ => hplain

theorem blamesPeer_parse (scheme s : List Char) : BlamesPeer (parse scheme s) :=
  (blamesPeer_checkAuthority _).bind fun _ => .ok _

theorem blamesPeer_resolve (base reference : List Char) : BlamesPeer (resolve base reference) := by
  unfold resolve
  refine .ite (.ok _) (.ite (.ok _) ?_)
  refine (blamesPeer_parse _ _).bind fun b => (blamesPeer_parse _ _).bind fun r => ?_
  exact .ite (.ok _) (.ite (.ok _) (.ite (.ok _) (.ok _)))

end Reference

/-! ## URLs -/

namespace Url

theorem blamesPeer_readPortNumber (scheme : String) (digits : List Char) :
    BlamesPeer (readPortNumber scheme digits) := by
  unfold readPortNumber
  refine .ite (.ok _) ?_
  split
  · exact .ok _
  · exact .error (isPeers_invalidUrl _)

theorem blamesPeer_readHost (s : List Char) : BlamesPeer (readHost s) := by
  unfold readHost
  dsimp only
  refine .ite (.ok _) (.ite (.ite (.ok _) (.error (isPeers_invalidUrl _))) (.ite ?_ (.ite (.ok _) ?_)))
  · exact .ite (.ok _) (.error (isPeers_invalidUrl _))
  · split
    · exact .ok _
    · exact .error (isPeers_invalidUrl _)

theorem blamesPeer_checkPath (hasScheme hasAuthority : Bool) (path : List Char) :
    BlamesPeer (checkPath hasScheme hasAuthority path) :=
  .ite (.error (isPeers_invalidUrl _)) (.ite (.error (isPeers_invalidUrl _))
    (.ite (.error (isPeers_invalidUrl _)) (.ok ())))

theorem blamesPeer_ofParts (p : Parts) (host : Option (List Char)) :
    BlamesPeer (ofParts p host) :=
  (blamesPeer_readHost _).bind fun _ => (blamesPeer_readPortNumber _ _).bind fun _ =>
    (blamesPeer_checkPath _ _ _).bind fun _ => .ok _

theorem blamesPeer_parse (s : List Char) : BlamesPeer (parse s) := by
  unfold parse
  refine .ite (.error (isPeers_invalidUrl _)) ?_
  split
  · exact .error (isPeers_invalidUrl _)
  · exact blamesPeer_ofParts _ _

theorem blamesPeer_checkPart (name : String) (s : List Char) : BlamesPeer (checkPart name s) := by
  unfold checkPart
  refine .ite (.error (isPeers_invalidUrl _)) ?_
  split
  · exact .error (isPeers_invalidUrl _)
  · exact .ok ()

theorem blamesPeer_renew (p : Parts) (host : Option (List Char)) : BlamesPeer (renew p host) := by
  have hparts {x : Except Foreign Url} (hx : BlamesPeer x) (name : String) (s : List Char) :
      BlamesPeer (checkPart name s >>= fun _ => x) := (blamesPeer_checkPart name s).bind fun _ => hx
  exact hparts (hparts (hparts (hparts (hparts (hparts (blamesPeer_ofParts p host) _ _) _ _) _ _)
    _ _) _ _) _ _

theorem blamesPeer_readableHost (u : Url) : BlamesPeer u.readableHost := by
  unfold readableHost
  refine .ite ?_ (.ite (.ok _) (.ok _))
  cases HostName.decode u.host.toList with
  | error e => exact .error nofun
  | ok host => exact .ok host

end Url

theorem Cookie.Jar.blamesPeer_headerFor (jar : Cookie.Jar) (url : Url) :
    BlamesPeer (jar.headerFor url) := by
  unfold headerFor
  refine .ite (.ok none) (.ite (.error (isPeers_badValue _)) ?_)
  exact (Reference.blamesPeer_checkAuthority _).bind fun _ => .ok _

/-! ## Redirects -/

namespace Redirect

/-- The URL that a header writes. -/
def written (location : String) : Except Foreign Url :=
  match Url.parse location.toList with
  | .ok url => .ok url
  | .error (.invalidUrl message) =>
    .error (.transport .remoteProtocol ("Invalid URL in location header: " ++ message ++ "."))
  | .error f => .error f

/-- A URL with a scheme alone is on the same host. -/
def hosted (asked url : Url) : Except Foreign Url :=
  if !url.scheme.isEmpty && url.host.isEmpty then do
    Url.renew url.parts (some (← asked.readableHost))
  else .ok url

/-- A relative URL starts where the request was made. -/
def resolved (asked url : Url) : Except Foreign Url :=
  if url.isRelative then do Url.parse (← Reference.resolve asked.text.toList url.text.toList)
  else .ok url

/-- A URL without a fragment gets that of the request. -/
def marked (asked url : Url) : Except Foreign Url :=
  let fragment := Percent.decodeLossy (asked.fragment.getD "").toList
  if fragment.isEmpty || !(url.fragment.getD "").isEmpty then .ok url
  else url.withFragment fragment

theorem target_eq (asked : Url) (location : String) :
    target asked location =
      written location >>= fun url => hosted asked url >>= fun url => resolved asked url >>=
        marked asked := by
  have hhosted (url : Url) (next : Url → Except Foreign Url) :
      (hosted asked url >>= next) =
        if !url.scheme.isEmpty && url.host.isEmpty then do
          next (← Url.renew url.parts (some (← asked.readableHost)))
        else next url := by
    unfold hosted
    split
    · rw [bind_assoc]
    · rfl
  have hresolved (url : Url) (next : Url → Except Foreign Url) :
      (resolved asked url >>= next) =
        if url.isRelative then do
          next (← Url.parse (← Reference.resolve asked.text.toList url.text.toList))
        else next url := by
    unfold resolved
    split
    · rw [bind_assoc]
    · rfl
  simp only [hhosted, hresolved]
  unfold target written
  cases Url.parse location.toList with
  | ok url => rfl
  | error f => cases f <;> rfl

theorem blamesPeer_written (location : String) : BlamesPeer (written location) := by
  have hparse := Url.blamesPeer_parse location.toList
  unfold written
  split
  · exact .ok _
  · refine .error fun e message h => ?_
    cases h
    rfl
  · rename_i f _ hf
    exact .error (hparse f hf)

theorem blamesPeer_target (asked : Url) (location : String) :
    BlamesPeer (target asked location) := by
  rw [target_eq]
  refine (blamesPeer_written location).bind fun url => .bind ?_ fun url => .bind ?_ fun url => ?_
  · exact .ite ((Url.blamesPeer_readableHost asked).bind fun _ => Url.blamesPeer_renew _ _) (.ok _)
  · exact .ite ((Reference.blamesPeer_resolve _ _).bind fun _ => Url.blamesPeer_parse _) (.ok _)
  · exact .ite (.ok _) (Url.blamesPeer_renew _ _)

/-- Nothing that is wrong with the place is a fault of the transport, but for that of a peer. -/
theorem blamesPeer_check (jar : Cookie.Jar) (asked : Url) (r : Response) :
    BlamesPeer (check jar asked r) := by
  unfold check
  split
  · exact .ok ()
  · refine (blamesPeer_target _ _).bind fun url => (Url.blamesPeer_readableHost url).bind fun _ => ?_
    refine .ite (.error nofun) ?_
    exact (Cookie.Jar.blamesPeer_headerFor jar url).bind fun _ => .ok ()

end Redirect

end Http

end SecondFactor
