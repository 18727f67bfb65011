/-
# StaticPreview.Proofs.Settings.Listening -- the address to listen on comes from host and port

Host and port are put together with a colon between them and read as one text.  What is
read is nevertheless what the host alone stands for, with the port that is set
(`read?_append`): four bytes end at what is no digit, so the colon ends them, and an
address in brackets ends at the first `]`, so whatever the host holds behind it would have
to be the colon of the port.

So a host is an address of version 4, or one of version 6 in brackets.  The text of an
address of version 6 is not: without the brackets its own colons are in the way
(`refused_of_loopback`).
-/
import StaticPreview.Settings
import StaticPreview.Proofs.Address.ReadBack

namespace StaticPreview

open StaticPreview.Text

namespace Address

variable {α β : Type} {s t host : List Char}

/-- What a reader gives that leaves nothing of the text. -/
def whole? (read : Option (α × List Char)) : Option α :=
  read.bind fun y => if y.2 = [] then some y.1 else none

/-- What a host in brackets stands for, with its scope. -/
def bracketed? (host : List Char) : Option (IpAddr × UInt32) :=
  (char? '[' host).bind fun s => (scoped? s).bind fun y => if y.2 = [']'] then some y.1 else none

/-- What a host stands for, with its scope. -/
def ofHost? (host : List Char) : Option (IpAddr × UInt32) :=
  match dotted? host with
  | some ((a, b, c, d), r) => if r = [] then some (.v4 a b c d, 0) else none
  | none => bracketed? host

/-- An address with its scope, and a port. -/
def withPort (x : IpAddr × UInt32) (port : UInt16) : SocketAddr :=
  { ip := x.1, port, scope := x.2 }

theorem whole?_map (read : Option (α × List Char)) (f : α → β) :
    whole? (read.map fun y => (f y.1, y.2)) = (whole? read).map f := by
  cases read with
  | none => rfl
  | some y =>
      simp only [whole?, Option.map_some, Option.bind_some]
      split <;> rfl

/-! ## The port -/

/-- **Only what is nothing but the colon and the port reads as a port.** -/
theorem whole?_port? (s : List Char) (port : UInt16) :
    whole? (port? (s ++ ':' :: Decimal.digits port.toNat)) = if s = [] then some port else none := by
  cases s with
  | nil => simp [port?_digits, whole?]
  | cons c s =>
      by_cases colon : c = ':'
      · subst colon
        have other : digitValue? 10 ':' = none := by decide
        have stops := (stopsAt_number other 65536 none true).stops s
        simp only [List.cons_append, port?, char?, if_pos, Option.bind_eq_bind, Option.bind_some,
          stops]
        cases number? 10 65536 none true s <;> simp [whole?]
      · simp [port?, char?, colon, whole?]

/-! ## Hosts with dots -/

theorem socketV4?_append (host : List Char) (port : UInt16) :
    socketV4? (host ++ ':' :: Decimal.digits port.toNat) =
      (dotted? host).bind fun y => (port? (y.2 ++ ':' :: Decimal.digits port.toNat)).map fun z =>
        (withPort (.v4 y.1.1 y.1.2.1 y.1.2.2.1 y.1.2.2.2, 0) z.1, z.2) := by
  have stops := (stopsAt_dotted (c := ':') (by decide) (by decide)).stops host
  rw [socketV4?, stops]
  cases dotted? host with
  | none => rfl
  | some y => simp only [withPort, Option.bind_eq_bind, Option.bind_some, Option.map_eq_bind,
      Function.comp_def]

/-! ## Hosts in brackets -/

/-- The bracket behind an address, and the port. -/
def closing? (s : List Char) : Option (UInt16 × List Char) := (char? ']' s).bind port?

theorem socketV6?_eq (s : List Char) :
    socketV6? s = (char? '[' s).bind fun s => (scoped? s).bind fun y =>
      (closing? y.2).map fun z => (withPort y.1 z.1, z.2) := by
  rw [socketV6?]
  cases char? '[' s with
  | none => rfl
  | some s =>
      simp only [scoped?, closing?, withPort, Option.bind_eq_bind, Option.bind_some,
        Option.bind_assoc, Option.map_eq_bind, Function.comp_def]

theorem closing?_eq_none (noBracket : ']' ∉ s) : closing? s = none := by
  rw [closing?, Option.bind_eq_none_iff]
  intro t read
  rw [eq_cons_of_char? read] at noBracket
  exact absurd List.mem_cons_self noBracket

/-- Bracket and port are all there is exactly when the bracket is, without the port. -/
theorem whole?_closing? (rest h : List Char) (noBracket : ']' ∉ rest) (port : UInt16) :
    whole? (closing? (rest ++ ']' :: (h ++ ':' :: Decimal.digits port.toNat))) =
      if rest ++ ']' :: h = [']'] then some port else none := by
  cases rest with
  | nil => simpa [closing?, char?] using whole?_port? h port
  | cons c rest =>
      have other : ¬ c = ']' := fun same => noBracket (same ▸ List.mem_cons_self)
      simp [closing?, char?, other, whole?]

theorem not_mem_of_scoped? {y : (IpAddr × UInt32) × List Char} (noBracket : ']' ∉ s)
    (read : scoped? s = some y) : ']' ∉ y.2 :=
  fun member => noBracket ((stopsAt_scoped.leaves read).subset member)

theorem whole?_socketV6?_append (host : List Char) (port : UInt16) :
    whole? (socketV6? (host ++ ':' :: Decimal.digits port.toNat)) =
      (bracketed? host).map (withPort · port) := by
  have opening := char?_append (d := '[') (c := ':') (by decide) host (Decimal.digits port.toNat)
  rw [socketV6?_eq, bracketed?, opening]
  cases char? '[' host with
  | none => rfl
  | some s =>
      rw [Option.map_some, Option.bind_some, Option.bind_some]
      by_cases bracket : ']' ∈ s
      · -- the address is read up to the first bracket, whatever stands behind that
        obtain ⟨inner, h, rfl, first⟩ := List.eq_append_cons_of_mem bracket
        have stops := stopsAt_scoped.stops inner
        rw [List.append_assoc, List.cons_append, stops, stops]
        cases read : scoped? inner with
        | none => rfl
        | some y =>
            have closed := whole?_closing? y.2 h (not_mem_of_scoped? first read) port
            simp only [Option.map_some, Option.bind_some]
            rw [whole?_map _ (withPort y.1), closed]
            split <;> rfl
      · have without : ']' ∉ s ++ ':' :: Decimal.digits port.toNat := by
          rw [List.mem_append, List.mem_cons]
          rintro (here | colon | digit)
          · exact bracket here
          · cases colon
          · cases Decimal.isDigit_of_mem_digits digit
        have nothing : ((scoped? (s ++ ':' :: Decimal.digits port.toNat)).bind fun y =>
            (closing? y.2).map fun z => (withPort y.1 z.1, z.2)) = none := by
          rw [Option.bind_eq_none_iff]
          intro y read
          rw [closing?_eq_none (not_mem_of_scoped? without read)]
          rfl
        have nothing' : ((scoped? s).bind fun y => if y.2 = [']'] then some y.1 else none) =
            none := by
          rw [Option.bind_eq_none_iff]
          intro y read
          have left := not_mem_of_scoped? bracket read
          rw [if_neg]
          intro last
          rw [last] at left
          exact left List.mem_cons_self
        rw [nothing, nothing']
        rfl

/-! ## Any host -/

theorem read?_eq (s : List Char) :
    SocketAddr.read? s =
      if (socketV4? s).isSome then whole? (socketV4? s) else whole? (socketV6? s) := by
  rw [SocketAddr.read?]
  cases socketV4? s with
  | some y => rfl
  | none => cases socketV6? s <;> rfl

theorem bracketed?_of_dotted {y : (UInt8 × UInt8 × UInt8 × UInt8) × List Char}
    (dots : dotted? host = some y) : bracketed? host = none := by
  rw [bracketed?, Option.bind_eq_none_iff]
  intro s read
  rw [eq_cons_of_char? read] at dots
  cases dots

/-- **Host and port together are read as the host alone with that port.** -/
theorem read?_append (host : List Char) (port : UInt16) :
    SocketAddr.read? (host ++ ':' :: Decimal.digits port.toNat) =
      (ofHost? host).map (withPort · port) := by
  have brackets := whole?_socketV6?_append host port
  have dots := socketV4?_append host port
  rw [read?_eq, ofHost?]
  cases read : dotted? host with
  | none =>
      rw [read] at dots
      rw [dots, brackets]
      rfl
  | some y =>
      rw [read, Option.bind_some] at dots
      rw [bracketed?_of_dotted read] at brackets
      have either : (if (socketV4? (host ++ ':' :: Decimal.digits port.toNat)).isSome then
            whole? (socketV4? (host ++ ':' :: Decimal.digits port.toNat))
          else whole? (socketV6? (host ++ ':' :: Decimal.digits port.toNat))) =
          whole? (socketV4? (host ++ ':' :: Decimal.digits port.toNat)) := by
        rw [brackets]
        cases socketV4? (host ++ ':' :: Decimal.digits port.toNat) <;> rfl
      rw [either, dots, whole?_map _ (withPort (.v4 y.1.1 y.1.2.1 y.1.2.2.1 y.1.2.2.2, 0)),
        whole?_port?]
      dsimp only
      split <;> rfl

/-! ## The hosts of addresses -/

theorem ofHost?_dottedText (a b c d : UInt8) :
    ofHost? (IpAddr.dottedText a b c d) = some (.v4 a b c d, 0) := by
  have read := dotted?_append a b c d (t := []) rfl
  rw [List.append_nil] at read
  simp [ofHost?, read]

theorem ofHost?_bracketed (a b c d e f g h : UInt16) :
    ofHost? ('[' :: (IpAddr.v6 a b c d e f g h).text ++ [']']) =
      some (.v6 a b c d e f g h, 0) := by
  have read : scoped? (IpAddr.v6 a b c d e f g h).text = some ((.v6 a b c d e f g h, 0), []) := by
    rw [scoped?, v6?_text]
    rfl
  have stops := stopsAt_scoped.stops (IpAddr.v6 a b c d e f g h).text []
  have noDots : dotted? ('[' :: (IpAddr.v6 a b c d e f g h).text ++ [']']) = none := rfl
  rw [ofHost?, noDots]
  simp [bracketed?, char?, stops, read]

theorem colon_mem_text (a b c d e f g h : UInt16) : ':' ∈ (IpAddr.v6 a b c d e f g h).text := by
  unfold IpAddr.text
  split
  · cases ‹IpAddr.v6 a b c d e f g h = _›
  · simp
  · dsimp only
    split
    · simp
    · simp [IpAddr.groupsText]

/-- Without brackets no address of version 6 is a host: its first colon ends the four bytes
that would have to be all of it. -/
theorem ofHost?_text_v6 (a b c d e f g h : UInt16) :
    ofHost? (IpAddr.v6 a b c d e f g h).text = none := by
  have noBracket := (IpAddr.v6 a b c d e f g h).not_mem_text (c := '[') (by decide)
  have bare : bracketed? (IpAddr.v6 a b c d e f g h).text = none := by
    rw [bracketed?, Option.bind_eq_none_iff]
    intro s read
    rw [eq_cons_of_char? read] at noBracket
    exact absurd List.mem_cons_self noBracket
  obtain ⟨front, back, cut⟩ := List.append_of_mem (colon_mem_text a b c d e f g h)
  have stops := (stopsAt_dotted (c := ':') (by decide) (by decide)).stops front back
  rw [ofHost?, bare, cut, stops]
  cases dotted? front <;> simp

end Address

/-- The host that stands for an address: its text, in brackets for version 6. -/
def IpAddr.hostText : IpAddr → List Char
  | .v4 a b c d => (IpAddr.v4 a b c d).text
  | .v6 a b c d e f g h => '[' :: (IpAddr.v6 a b c d e f g h).text ++ [']']

theorem Address.ofHost?_hostText (ip : IpAddr) : ofHost? ip.hostText = some (ip, 0) := by
  cases ip with
  | v4 a b c d => exact ofHost?_dottedText a b c d
  | v6 a b c d e f g h => exact ofHost?_bracketed a b c d e f g h

theorem Address.ofHost?_text (ip : IpAddr) :
    ofHost? ip.text = if ip.isV4 then some (ip, 0) else none := by
  cases ip with
  | v4 a b c d => exact ofHost?_dottedText a b c d
  | v6 a b c d e f g h => exact ofHost?_text_v6 a b c d e f g h

namespace Settings

/-- The settings with another host. -/
def withHost (s : Settings) (host : List Char) : Settings :=
  { s with server := { s.server with host := String.ofList host } }

theorem address_eq (s : Settings) :
    s.address = match Address.ofHost? s.server.host.toList with
      | some x => .ok { ip := x.1, port := s.server.port, scope := x.2 }
      | none => .error (.invalidAddress s.addressText) := by
  have written : s.addressText.toList =
      s.server.host.toList ++ ':' :: Decimal.digits s.server.port.toNat := by
    simp [addressText]
  rw [address, written, Address.read?_append]
  cases Address.ofHost? s.server.host.toList <;> rfl

/-- **The address to listen on is what the host alone stands for, with the port that is set**,
whatever the host holds; and any address can be listened on.  Its own text is a host for it
exactly if it is of version 4: one of version 6 has to stand in brackets. -/
theorem address_withHost (s : Settings) :
    (∀ host, (s.withHost host).address = match Address.ofHost? host with
      | some x => .ok { ip := x.1, port := s.server.port, scope := x.2 }
      | none => .error (.invalidAddress (s.withHost host).addressText)) ∧
    (∀ ip, (s.withHost ip.hostText).address = .ok { ip, port := s.server.port }) ∧
    ∀ ip, (s.withHost ip.text).address =
      if ip.isV4 then .ok { ip, port := s.server.port }
      else .error (.invalidAddress (s.withHost ip.text).addressText) := by
  have general (host : List Char) : (s.withHost host).address = match Address.ofHost? host with
      | some x => .ok { ip := x.1, port := s.server.port, scope := x.2 }
      | none => .error (.invalidAddress (s.withHost host).addressText) := by
    have same : (s.withHost host).server.host.toList = host := String.toList_ofList
    rw [address_eq, same]
    rfl
  refine ⟨general, ?_, ?_⟩
  · intro ip
    rw [general, Address.ofHost?_hostText]
  · intro ip
    rw [general, Address.ofHost?_text]
    cases ip.isV4 <;> rfl

/-- **The loopback address of version 6 cannot be listened on by its text**: with the colon
and the port behind it, it is no address any more. -/
theorem refused_of_loopback :
    (standard.withHost (IpAddr.v6 0 0 0 0 0 0 0 1).text).address =
      .error (.invalidAddress "::1:8081") := by
  have text : (standard.withHost (IpAddr.v6 0 0 0 0 0 0 0 1).text).addressText = "::1:8081" := by
    decide +kernel
  have unread : SocketAddr.read? "::1:8081".toList = none := by decide +kernel
  rw [address, text, unread]

end Settings

end StaticPreview
