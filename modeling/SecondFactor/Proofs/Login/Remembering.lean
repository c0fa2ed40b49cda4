import SecondFactor.Proofs.Login.Turns

/-! # Usernames that are remembered

A login writes its username down when it begins, and does not use the store at any other time.
Whatever comes of it, and of others, the store gives back the name of the login that began last. -/

namespace SecondFactor.Login

open Negotiation (Room)

/-! ## Stores -/

namespace Store

theorem lookup_cons (m : String × Json) (s : Store) (key : String) :
    List.lookup key (m :: s) = if key = m.1 then some m.2 else s.lookup key := by
  by_cases h : key = m.1
  · rw [List.lookup_cons, if_pos h, h, beq_self_eq_true]
  · rw [List.lookup_cons, if_neg h, beq_eq_false_iff_ne.mpr h]

theorem lookup_map (s : Store) (key : String) (value : Json) (key' : String) :
    (s.map fun m => if m.1 == key then (key, value) else m).lookup key' =
      if key' = key then (s.lookup key).map fun _ => value else s.lookup key' := by
  induction s with
  | nil => simp
  | cons m s ih =>
    rw [List.map_cons, lookup_cons, lookup_cons, lookup_cons, ih]
    by_cases hm : m.1 = key <;> grind

theorem any_eq_isSome (s : Store) (key : String) :
    s.any (·.1 == key) = (s.lookup key).isSome := by
  induction s with
  | nil => rfl
  | cons m s ih =>
    rw [List.any_cons, lookup_cons, ih]
    by_cases hm : m.1 = key <;> grind

@[simp] theorem get_set (s : Store) (key : String) (value : Json) (key' : String) :
    (s.set key value).get key' = if key' = key then value else s.get key' := by
  unfold set get
  rw [any_eq_isSome]
  cases hs : s.lookup key with
  | some old =>
    rw [Option.isSome_some, if_pos rfl, lookup_map, hs]
    split <;> rfl
  | none =>
    rw [Option.isSome_none, if_neg Bool.false_ne_true, List.lookup_append, lookup_cons]
    by_cases hkey : key' = key
    · simp [hkey, hs]
    · simp [hkey]

@[simp] theorem get_clear (s : Store) (key key' : String) :
    (s.clear key).get key' = if key' = key then .null else s.get key' := by
  unfold clear get
  induction s with
  | nil => simp
  | cons m s ih =>
    rw [List.filter_cons, lookup_cons]
    by_cases hm : m.1 = key
    · grind
    · grind [lookup_cons]

/-- The key that is used. -/
def Access.key : Access → String
  | .get key | .set key _ | .clear key => key

theorem get_apply_of_ne (s : Store) {a : Access} {key : String} (h : a.key ≠ key) :
    (s.apply a).get key = s.get key := by
  cases a with
  | get _ => rfl
  | set key' value => exact (s.get_set key' value key).trans (if_neg (Ne.symm h))
  | clear key' => exact (s.get_clear key' key).trans (if_neg (Ne.symm h))

/-- What belongs to other keys stays as it is. -/
theorem get_foldl_of_ne {as : List Access} {key : String} (h : ∀ a ∈ as, a.key ≠ key) (s : Store) :
    (as.foldl apply s).get key = s.get key := by
  induction as generalizing s with
  | nil => rfl
  | cons a as ih =>
    obtain ⟨ha, has⟩ := List.forall_mem_cons.mp h
    rw [List.foldl_cons, ih has, get_apply_of_ne s ha]

/-- What is given back after a username was written down. -/
def remembered (username : String) (keep : Bool) : Json :=
  if keep then .text (Text.ofString username) else .null

theorem restore_remember (s : Store) (username : String) (keep : Bool) :
    ((remember username keep).foldl apply s).restore.1 = remembered username keep := by
  have hkeys : usernameKey ≠ flagKey := by decide
  cases keep <;> simp [remember, remembered, restore, apply, isTrue, hkeys]

/-- Whether a key is one of the two that logins use. -/
def IsOwn (key : String) : Prop := key = usernameKey ∨ key = flagKey

theorem isOwn_remember (username : String) (keep : Bool) :
    ∀ a ∈ remember username keep, IsOwn a.key := by
  cases keep <;> simp [remember, IsOwn, Access.key]

theorem isOwn_restore (s : Store) : ∀ a ∈ s.restore.2, IsOwn a.key := by
  unfold restore
  split <;> simp [IsOwn, Access.key]

end Store

/-! ## Logins -/

variable {ν : Type}

/-- The use of the store that an event is. -/
def Event.accessed? : Event ν → Option Store.Access
  | .accessed a => some a
  | _ => none

/-- How the store was used. -/
def accesses (es : List (Event ν)) : List Store.Access := es.filterMap Event.accessed?

theorem accesses_append (es fs : List (Event ν)) :
    accesses (es ++ fs) = accesses es ++ accesses fs :=
  List.filterMap_append

theorem accesses_negotiation (es : List (Negotiation.Event ν)) :
    accesses (es.map .negotiation) = [] := by
  simp [accesses, Event.accessed?]

theorem accesses_accessed (as : List Store.Access) :
    accesses (as.map .accessed : List (Event ν)) = as := by
  simp [accesses, List.filterMap_map, Function.comp_def, Event.accessed?]

/-- What a login was asked for: the credentials, and whether their username is to be remembered. -/
structure Terms where
  credentials : Credentials
  keep : Bool

/-- How the store is used for a login. -/
def Terms.accesses (t : Terms) : List Store.Access :=
  Store.remember t.credentials.username t.keep

/-- What the store gives back after a login. -/
def Terms.remembered (t : Terms) : Json := Store.remembered t.credentials.username t.keep

end SecondFactor.Login

namespace SecondFactor

def Login.terms {ν : Type} (l : Login ν) : Login.Terms := ⟨l.credentials, l.keep⟩

namespace Login

open Negotiation (Room)

variable {ν : Type}

/-- Whether a login begins with a turn. -/
def begins (l : Login ν) (t : Negotiation.Turn Room.Turn) : Bool :=
  match t, l.task.start with
  | .caller .host, .first => true
  | _, _ => false

namespace Course

/-- The store and its uses, with what the login was asked for. -/
def storage (c : Course ν) : Store × List Store.Access × Terms :=
  (c.store, accesses c.log, c.terms)

theorem storage_note (c : Course ν) {es : List (Event ν)} (hes : accesses es = []) :
    (c.note es).storage = c.storage := by
  simp only [storage, note, accesses_append, hes, List.append_nil]

/-- What is done in the room of the negotiation leaves the store alone. -/
theorem storage_inRoom (c : Course ν) (f : Room ν → Room ν) : (c.inRoom f).storage = c.storage := by
  unfold inRoom
  cases c.room? with
  | none => rfl
  | some r =>
    simp only [storage, settleIn, accesses_append, accesses_negotiation, List.append_nil]
    rfl

theorem storage_conclude (c : Course ν) (result : Except Failure Ticket) :
    (c.conclude result).storage = c.storage := by
  unfold conclude
  split
  · exact storage_note _ rfl
  · split
    · exact storage_note _ rfl
    · rfl

theorem storage_negotiate (c : Course ν) (t : Ticket) : (c.negotiate t).storage = c.storage := by
  unfold negotiate
  split
  · exact c.storage_conclude _
  · exact storage_inRoom _ _

theorem storage_take (c : Course ν) (result : Except Failure Ticket) :
    (c.take result).storage = c.storage := by
  unfold take
  split
  · exact c.storage_conclude _
  · split
    · exact c.storage_negotiate _
    · exact c.storage_conclude _

theorem storage_receive (c : Course ν) (r : Http.Request) (o : Http.Outcome) :
    (c.receive r o).storage = c.storage := by
  rw [receive_eq]
  exact storage_take _ _

theorem storage_submit (c : Course ν) : c.submit.storage = c.storage := by
  unfold submit
  split
  · exact c.storage_conclude _
  · rename_i r outside _
    have hnoted : (note { c with toOutside := outside }
        [.negotiation (.requested c.sent.length)]).storage = c.storage := storage_note _ rfl
    dsimp only
    split
    · exact (storage_receive _ r _).trans hnoted
    · exact hnoted

theorem storage_awaitOutcome (c : Course ν) : c.awaitOutcome.storage = c.storage := by
  unfold awaitOutcome
  split
  · exact c.storage_conclude _
  · exact c.storage_inRoom _

/-- A login writes its username down when it begins. -/
theorem storage_start (c : Course ν) :
    c.start.storage =
      (c.terms.accesses.foldl Store.apply c.store, accesses c.log ++ c.terms.accesses, c.terms) := by
  rw [start_eq, storage_submit]
  simp only [storage, accesses_append, accesses_accessed]
  rfl

theorem storage_runLogin (c : Course ν) (h : c.task.start ≠ .first) :
    c.runLogin.storage = c.storage := by
  unfold runLogin
  split
  · exact absurd ‹_› h
  · exact c.storage_receive _ _
  · exact c.part.storage_awaitOutcome.trans (c.storage_inRoom _)
  · exact c.storage_awaitOutcome
  · exact c.storage_inRoom _
  · exact c.storage_inRoom _
  all_goals rfl

/-- A turn with which the login does not begin leaves the store alone. -/
theorem storage_run (c : Course ν) {t : Negotiation.Turn Room.Turn}
    (h : c.toLogin.begins t = false) : (c.run t).storage = c.storage := by
  unfold run
  split
  · refine c.storage_runLogin fun hfirst => ?_
    simp only [begins, hfirst] at h
    cases h
  · unfold notifyParting
    split <;> rfl
  · unfold notifyOutcome
    split <;> rfl
  · exact c.storage_inRoom _

theorem run_of_begins (c : Course ν) {t : Negotiation.Turn Room.Turn}
    (h : c.toLogin.begins t = true) : c.run t = c.start := by
  unfold begins at h
  split at h
  · rename_i hfirst
    simp only [run, runLogin, hfirst]
  · cases h

theorem storage_respond (c : Course ν) (o : Http.Outcome) : (c.respond o).storage = c.storage := by
  unfold respond
  split
  · rfl
  · exact c.storage_inRoom _

end Course

/-! ## Runs -/

/-- What the login is asked for that a move makes, if it makes one. -/
def Move.terms? : Move ν → Option Terms
  | .login credentials keep _ _ => some ⟨credentials, keep⟩
  | _ => none

namespace World

variable {w : World ν}

/-- What the logins were asked for, in the order of their numbers. -/
def terms (w : World ν) : List Terms := w.logins.map Login.terms

/-- How the store was used, for whichever login. -/
def accesses (w : World ν) : List Store.Access := w.log.filterMap (·.2.accessed?)

/-- The login that begins with a move, if one does: its number, and what it was asked for. -/
def begins? (w : World ν) : Move ν → Option (Nat × Terms)
  | .turn i t => w.logins[i]?.bind fun l => if l.begins t then some (i, l.terms) else none
  | _ => none

/-- The logins that begin in a run, the first one first. -/
def begun (script : Nat → Http.Outcome) : World ν → List (Move ν) → List (Nat × Terms)
  | _, [] => []
  | w, m :: ms => (w.begins? m).toList ++ begun script (w.move script m) ms

theorem begun_concat (script : Nat → Http.Outcome) (w : World ν) (ms : List (Move ν)) (m : Move ν) :
    w.begun script (ms ++ [m]) =
      w.begun script ms ++ ((w.moves script ms).begins? m).toList := by
  induction ms generalizing w with
  | nil => simp [begun, moves]
  | cons m' ms ih =>
    simp only [List.cons_append, begun, ih, List.append_assoc, moves, List.foldl_cons]

/-- How the store is used for logins that begin, one after the other. -/
def usesOf (begun : List (Nat × Terms)) : List Store.Access := begun.flatMap (·.2.accesses)

/-- What a world has come to if these logins began: what they were asked for, and how the store was
used for them. -/
structure Remembers (store : Store) (asked : List Terms) (begun : List (Nat × Terms)) (w : World ν) :
    Prop where
  terms : w.terms = asked
  present : ∀ b ∈ begun, asked[b.1]? = some b.2
  accesses : w.accesses = usesOf begun
  store : w.store = (usesOf begun).foldl Store.apply store

namespace Remembers

variable {store : Store} {asked : List Terms} {begun begun' : List (Nat × Terms)}

theorem settleIn (hw : w.Remembers store asked begun) {i : Nat} {c c' : Course ν}
    (hc : w.course? i = some c) (hpresent : ∀ b ∈ begun', asked[b.1]? = some b.2)
    (hstorage : c'.storage = ((usesOf begun').foldl Store.apply c.store, usesOf begun', c.terms)) :
    (w.settleIn i c').Remembers store asked (begun ++ begun') := by
  obtain ⟨l, hl, rfl⟩ := Option.map_eq_some_iff.mp hc
  simp only [Course.storage, Prod.mk.injEq] at hstorage
  obtain ⟨hstore, haccesses, hterms⟩ := hstorage
  have huses : usesOf (begun ++ begun') = usesOf begun ++ usesOf begun' := List.flatMap_append
  refine ⟨?_, List.forall_mem_append.mpr ⟨hw.present, hpresent⟩, ?_, ?_⟩
  · obtain ⟨hi, rfl⟩ := List.getElem?_eq_some_iff.mp hl
    have hsame : (w.logins.map Login.terms).set i c'.terms = w.logins.map Login.terms := by
      rw [hterms, ← List.getElem_map Login.terms (h := by simpa using hi)]
      exact List.set_getElem_self _
    rw [World.terms, World.settleIn, List.map_set, hsame]
    exact hw.terms
  · have hnew : (c'.log.map (i, ·)).filterMap (·.2.accessed?) = usesOf begun' := by
      rw [List.filterMap_map, ← haccesses]
      rfl
    rw [World.accesses, World.settleIn, List.filterMap_append, hnew, huses, ← hw.accesses]
    rfl
  · rw [World.settleIn, hstore, huses, List.foldl_append, ← hw.store]

/-- What leaves the store alone in the course of a login leaves it alone. -/
theorem inCourse (hw : w.Remembers store asked begun) (i : Nat) {f : Course ν → Course ν}
    (hf : ∀ c : Course ν, w.course? i = some c → (f c).storage = c.storage) :
    (w.inCourse i f).Remembers store asked begun := by
  unfold World.inCourse
  cases hc : w.course? i with
  | none => exact hw
  | some c =>
    have hstorage : (f c).storage = (c.store, [], c.terms) := by
      obtain ⟨l, -, rfl⟩ := Option.map_eq_some_iff.mp hc
      exact hf _ hc
    have hsettled := hw.settleIn hc (List.forall_mem_nil _) hstorage
    rwa [List.append_nil] at hsettled

/-- A turn in which a login begins writes its username down, and no other turn does. -/
theorem run (hw : w.Remembers store asked begun) (i : Nat) (t : Negotiation.Turn Room.Turn) :
    (w.inCourse i (·.run t)).Remembers store asked (begun ++ (w.begins? (.turn i t)).toList) := by
  cases hl : w.logins[i]? with
  | none =>
    have hnone : w.course? i = none := course_eq_none.mpr hl
    simpa [World.inCourse, hnone, begins?, hl] using hw
  | some l =>
    have hc : w.course? i = some { toOutside := w.toOutside, toLogin := l, store := w.store } := by
      rw [course?, hl, Option.map_some]
    cases hbegins : l.begins t with
    | false =>
      have hnobody : w.begins? (.turn i t) = none := by simp [begins?, hl, hbegins]
      rw [hnobody, Option.toList_none, List.append_nil]
      refine hw.inCourse i fun c hc' => c.storage_run ?_
      cases hc.symm.trans hc'
      exact hbegins
    | true =>
      have hsomebody : w.begins? (.turn i t) = some (i, l.terms) := by simp [begins?, hl, hbegins]
      have hpresent : ∀ b ∈ [(i, l.terms)], asked[b.1]? = some b.2 := by
        rw [List.forall_mem_singleton, ← hw.terms, World.terms, List.getElem?_map, hl,
          Option.map_some]
      rw [hsomebody, Option.toList_some, World.inCourse, hc]
      dsimp only
      rw [Course.run_of_begins _ hbegins]
      refine hw.settleIn hc hpresent ?_
      rw [Course.storage_start, usesOf, List.flatMap_singleton]
      rfl

theorem login (hw : w.Remembers store asked begun) (credentials : Credentials) (keep : Bool)
    (levels : Nat) (dialog : Negotiation.Dialog ν) :
    (w.login credentials keep levels dialog).Remembers store (asked ++ [⟨credentials, keep⟩]) begun := by
  refine ⟨?_, fun b hb => ?_, hw.accesses, hw.store⟩
  · rw [World.terms, World.login, List.map_append, ← hw.terms]
    rfl
  · have hb := hw.present b hb
    rw [List.getElem?_append_left (List.getElem?_eq_some_iff.mp hb).1, hb]

theorem move {script : Nat → Http.Outcome} (hw : w.Remembers store asked begun) (m : Move ν) :
    (w.move script m).Remembers store (asked ++ m.terms?.toList)
      (begun ++ (w.begins? m).toList) := by
  have hsame {w' : World ν} (h : w'.Remembers store asked begun) :
      w'.Remembers store (asked ++ []) (begun ++ []) := by
    rwa [List.append_nil, List.append_nil]
  cases m with
  | login credentials keep levels dialog =>
    exact (List.append_nil begun).symm ▸ hw.login credentials keep levels dialog
  | turn i t => exact (List.append_nil asked).symm ▸ hw.run i t
  | cancel i => exact hsame (hw.inCourse i fun _ _ => rfl)
  | tell i => exact hsame (hw.inCourse i fun c _ => c.storage_inRoom _)
  | respond i =>
    simp only [World.move]
    split
    · exact hsame (hw.inCourse i fun c _ => c.storage_respond _)
    · exact hsame hw
  | reply i j next => exact hsame (hw.inCourse i fun c _ => c.storage_inRoom _)
  | queue queue => exact hsame ⟨hw.terms, hw.present, hw.accesses, hw.store⟩

theorem moves {script : Nat → Http.Outcome} (hw : w.Remembers store [] []) (ms : List (Move ν)) :
    (w.moves script ms).Remembers store (ms.filterMap Move.terms?) (w.begun script ms) := by
  induction ms using List.reverseRecOn with
  | nil => exact hw
  | append_singleton ms m ih =>
    rw [moves_append, begun_concat, List.filterMap_append]
    have hlast : [m].filterMap Move.terms? = m.terms?.toList := by
      cases hm : m.terms? <;> simp [hm]
    rw [hlast]
    exact ih.move m

/-- The store gives back what was written down last. -/
theorem restore (hw : w.Remembers store asked begun) :
    w.store.restore.1 = begun.getLast?.elim store.restore.1 fun b => b.2.remembered := by
  rw [hw.store]
  cases begun using List.reverseRecOn with
  | nil => rfl
  | append_singleton before b =>
    rw [List.getLast?_concat, Option.elim_some, usesOf, List.flatMap_append, List.foldl_append,
      List.flatMap_singleton]
    exact Store.restore_remember _ _ _

theorem isOwn (hw : w.Remembers store asked begun) : ∀ a ∈ w.accesses, Store.IsOwn a.key := by
  intro a ha
  rw [hw.accesses] at ha
  obtain ⟨b, -, ha⟩ := List.mem_flatMap.mp ha
  exact Store.isOwn_remember _ _ a ha

theorem get (hw : w.Remembers store asked begun) {key : String} (hkey : ¬ Store.IsOwn key) :
    w.store.get key = store.get key := by
  rw [hw.store, ← hw.accesses]
  refine Store.get_foldl_of_ne (fun a ha hne => hkey ?_) store
  rw [← hne]
  exact hw.isOwn a ha

end Remembers

/-- Whatever becomes of logins, and in whichever order their turns are taken, the store gives back the
username of the login that began last, if it was to be remembered. Logins use the two keys of their
own, and what belongs to others is as it was. -/
theorem restore_moves (client : Http.Client) (script : Nat → Http.Outcome) (held : Nat → Bool)
    (adapter : Option Key.Adapter) (store : Store) (ms : List (Move ν)) :
    let start : World ν := opening client script held adapter store
    let w := start.moves script ms
    let begun := start.begun script ms
    (∀ b ∈ begun, (ms.filterMap Move.terms?)[b.1]? = some b.2) ∧
    w.store.restore.1 = (begun.getLast?.elim store.restore.1 fun b => b.2.remembered) ∧
    w.store = w.accesses.foldl Store.apply store ∧
    (∀ a ∈ w.accesses ++ w.store.restore.2, Store.IsOwn a.key) ∧
    ∀ key, ¬ Store.IsOwn key → w.store.get key = store.get key := by
  intro start w begun
  have hstart : start.Remembers store [] [] := ⟨rfl, List.forall_mem_nil _, rfl, rfl⟩
  have hw : w.Remembers store (ms.filterMap Move.terms?) begun := hstart.moves ms
  have hown : ∀ a ∈ w.accesses ++ w.store.restore.2, Store.IsOwn a.key :=
    List.forall_mem_append.mpr ⟨hw.isOwn, Store.isOwn_restore w.store⟩
  exact ⟨hw.present, hw.restore, hw.accesses ▸ hw.store, hown, fun key hkey => hw.get hkey⟩

/-- Of two logins at the same time the second one begins first. -/
example :
    let script : Nat → Http.Outcome := fun _ => .error .undecodableBytes
    let start : World Unit := opening { settings := {} } script (fun _ => true) none []
    let login (name : String) (keep : Bool) : Move Unit :=
      .login ⟨name, "pw", "pam"⟩ keep 995 (.ends (.returned ()))
    let turn (i : Nat) : Move Unit := .turn i (.caller .host)
    let ms := [login "root" true, login "admin" false, turn 1, turn 0, .cancel 0, turn 0]
    (start.moves script ms).store =
      [("login-saveusername", .bool true), ("login-username", .text (Text.ofString "root"))] := by
  rfl

end World

end Login

end SecondFactor
