import Mathlib.Data.List.Basic
import LogFlux.BreakerBridge
import LogFlux.Json.Decode

/-!
# LogFlux.Address — the addresses `NewUnixClient` and `NewTCPClient` build, and how they dial

`NewTCPClient(host, port)` sets `Address` to `fmt.Sprintf("%s:%d", host, port)`.  The dialer's
first step on a TCP address is `net.SplitHostPort`, which finds the port after the last `:`,
and the host either before it or, when the address starts with `[`, between the brackets.  It
searches for the ASCII bytes `:`, `[` and `]`, which no other character's UTF-8 encoding holds,
so it is modelled on the characters of the address.

* `tcpConfig_address`: for a host with no `:`, `[` or `]`, and for a bracketed IPv6 literal,
  `SplitHostPort` gives back the host and the port's digits; a bare IPv6 literal such as `::1`
  gives `too many colons in address`, since `Sprintf` does not bracket it as
  `net.JoinHostPort` does.
* `sendWithRetryLoop_bare_ipv6`: so a client `NewTCPClient` builds for a bare IPv6 host never
  connects: whatever the clocks, deadlines and peers, each of its four attempts fails in
  `Connect` and writes nothing, and the call leaves it with no connection.
-/

namespace LogFlux

open Json

/-- `NewUnixClient(socketPath)`'s configuration: `DefaultConfig()` on `unix`, at
`DefaultSocketPath` for an empty path. -/
def unixConfig (socketPath : String) : Config :=
  { defaultConfig with network := "unix", address := if socketPath = "" then defaultSocketPath else socketPath }

/-- `NewUnixClient(socketPath)`. -/
def newUnixClient (socketPath : String) : Option Client := newClient (unixConfig socketPath)

/-- The host `NewTCPClient` uses: `localhost` for an empty one. -/
def tcpHost (host : String) : String := if host = "" then "localhost" else host

/-- The port `NewTCPClient` uses: `8080` for one outside `[1, 65535]`. -/
def tcpPort (port : Int) : Int := if port ≤ 0 ∨ 65535 < port then 8080 else port

/-- `NewTCPClient(host, port)`'s configuration: `DefaultConfig()` on `tcp` at
`fmt.Sprintf("%s:%d", host, port)`. -/
def tcpConfig (host : String) (port : Int) : Config :=
  { defaultConfig with network := "tcp", address := tcpHost host ++ ":" ++ ⟨encodeInt (tcpPort port)⟩ }

/-- `NewTCPClient(host, port)`. -/
def newTCPClient (host : String) (port : Int) : Option Client := newClient (tcpConfig host port)

/-- The reasons of the `net.AddrError` that `SplitHostPort` returns. -/
inductive AddrReason where
  /-- `missing port in address` -/
  | missingPort
  /-- `too many colons in address` -/
  | tooManyColons
  /-- `missing ']' in address` -/
  | missingBracket
  /-- `unexpected '[' in address` -/
  | unexpectedOpen
  /-- `unexpected ']' in address` -/
  | unexpectedClose
  deriving DecidableEq, Repr

/-- `net.SplitHostPort(hostport)`: the host and the port, or the reason it fails.  `i` is the
index of the last `:`; `j` and `k` are where the searches for a stray `[` and `]` start. -/
def splitHostPort (hp : List Char) : Except AddrReason (List Char × List Char) :=
  if ':' ∉ hp then .error .missingPort
  else
    let i := hp.length - 1 - hp.reverse.indexOf ':'
    let hostJK : Except AddrReason (List Char × Nat × Nat) :=
      if hp.head? = some '[' then
        if ']' ∉ hp then .error .missingBracket
        else
          let e := hp.indexOf ']'
          if e + 1 = hp.length then .error .missingPort
          else if e + 1 = i then .ok ((hp.take e).drop 1, 1, e + 1)
          else if hp[e + 1]? = some ':' then .error .tooManyColons
          else .error .missingPort
      else if ':' ∈ hp.take i then .error .tooManyColons
      else .ok (hp.take i, 0, 0)
    hostJK.bind fun (host, j, k) =>
      if '[' ∈ hp.drop j then .error .unexpectedOpen
      else if ']' ∈ hp.drop k then .error .unexpectedClose
      else .ok (host, hp.drop (i + 1))

/-! ## The address read back -/

theorem isDigit_of_mem_decDigits {c : Char} (n : Nat) (h : c ∈ decDigits n) : c.isDigit = true := by
  rw [decDigits] at h
  split at h
  · rw [List.mem_singleton.mp h]; exact (hexDigit_decimal n (by omega)).1
  · rcases List.mem_append.mp h with h | h
    · exact isDigit_of_mem_decDigits (n / 10) h
    · rw [List.mem_singleton.mp h]; exact (hexDigit_decimal _ (Nat.mod_lt _ (by omega))).1
termination_by n
decreasing_by omega

theorem lastColon {h ds : List Char} (hd : ':' ∉ ds) :
    (h ++ ':' :: ds).length - 1 - (h ++ ':' :: ds).reverse.indexOf ':' = h.length := by
  have hr : (h ++ ':' :: ds).reverse = ds.reverse ++ ':' :: h.reverse := by simp
  rw [hr, List.indexOf_append_of_not_mem (by simpa using hd), List.indexOf_cons_self]
  simp

theorem drop_succ_append (h ds : List Char) (a : Char) : (h ++ a :: ds).drop (h.length + 1) = ds := by
  rw [List.drop_append_eq_append_drop]; simp

section Split

variable {ds : List Char} (hd : ∀ c ∈ ds, c ≠ ':' ∧ c ≠ '[' ∧ c ≠ ']')
include hd

theorem splitHostPort_plain {h : List Char} (hh : h.head? ≠ some '[') :
    splitHostPort (h ++ ':' :: ds) =
      if ':' ∈ h then .error .tooManyColons
      else if '[' ∈ h then .error .unexpectedOpen
      else if ']' ∈ h then .error .unexpectedClose
      else .ok (h, ds) := by
  have hc : ':' ∉ ds := fun hm => (hd _ hm).1 rfl
  have hl : ¬ '[' ∈ ds := fun hm => (hd _ hm).2.1 rfl
  have hr : ¬ ']' ∈ ds := fun hm => (hd _ hm).2.2 rfl
  have hhead : (h ++ ':' :: ds).head? ≠ some '[' := by cases h <;> simp_all
  dsimp only [splitHostPort]
  rw [if_neg (by simp), lastColon hc, if_neg hhead, List.take_left, drop_succ_append]
  by_cases h1 : ':' ∈ h
  · rw [if_pos h1, if_pos h1]; rfl
  · rw [if_neg h1, if_neg h1]
    simp only [Except.bind, List.drop_zero, List.mem_append, List.mem_cons, hl, hr, or_false]
    by_cases h2 : '[' ∈ h <;> by_cases h3 : ']' ∈ h <;> simp [h2, h3]

theorem splitHostPort_bracket {g : List Char} (hg : ∀ c ∈ g, c ≠ '[' ∧ c ≠ ']') :
    splitHostPort (('[' :: g ++ [']']) ++ ':' :: ds) = .ok (g, ds) := by
  have hc : ':' ∉ ds := fun hm => (hd _ hm).1 rfl
  have hl : '[' ∉ ds := fun hm => (hd _ hm).2.1 rfl
  have hr : ']' ∉ ds := fun hm => (hd _ hm).2.2 rfl
  have hgl : '[' ∉ g := fun hm => (hg _ hm).1 rfl
  have hgr : ']' ∉ g := fun hm => (hg _ hm).2 rfl
  have he : (('[' :: g ++ [']']) ++ ':' :: ds).indexOf ']' = g.length + 1 := by
    simp only [List.cons_append, List.append_assoc]
    rw [List.indexOf_cons_ne _ (by decide), List.indexOf_append_of_not_mem hgr]
    simp
  dsimp only [splitHostPort]
  rw [if_neg (by simp), lastColon hc, if_pos (by simp), if_neg (by simp), he]
  simp [Except.bind, hgl, hl, hr]

end Split

theorem tcpPort_mem (port : Int) : 0 < tcpPort port ∧ tcpPort port ≤ 65535 := by
  unfold tcpPort; split <;> omega

theorem tcpConfig_address_toList (host : String) (port : Int) :
    (tcpConfig host port).address.toList = (tcpHost host).toList ++ ':' :: decDigits (tcpPort port).toNat := by
  have hp := (tcpPort_mem port).1
  have he : encodeInt (tcpPort port) = decDigits (tcpPort port).toNat := by
    rw [encodeInt, if_neg (by omega)]
    congr 1; omega
  rw [tcpConfig, he]
  simp only [String.toList, String.data_append, List.append_assoc]
  rfl

theorem decDigits_plain (n : Nat) : ∀ c ∈ decDigits n, c ≠ ':' ∧ c ≠ '[' ∧ c ≠ ']' := fun c hc => by
  have h := isDigit_of_mem_decDigits n hc
  refine ⟨?_, ?_, ?_⟩ <;> rintro rfl <;> exact absurd h (by decide)

/-- A host that holds `:` and does not start with `[` does not split back. -/
theorem splitHostPort_tcpConfig_colon {host : String} (hc : ':' ∈ host.toList)
    (hb : host.toList.head? ≠ some '[') (port : Int) :
    splitHostPort (tcpConfig host port).address.toList = .error .tooManyColons := by
  have hne : host ≠ "" := by rintro rfl; exact absurd hc (by decide)
  rw [tcpConfig_address_toList, tcpHost, if_neg hne,
    splitHostPort_plain (decDigits_plain (tcpPort port).toNat) hb, if_pos hc]

/-- **`NewTCPClient`'s address, split by the dialer**, gives back the host and port for a plain
host or a bracketed IPv6 literal; a bare IPv6 literal fails, since `Sprintf("%s:%d")` does not
bracket it as `net.JoinHostPort` does. -/
theorem tcpConfig_address (host : String) (port : Int) :
    ((∀ c ∈ host.toList, c ≠ ':' ∧ c ≠ '[' ∧ c ≠ ']') →
      splitHostPort (tcpConfig host port).address.toList =
        .ok ((tcpHost host).toList, decDigits (tcpPort port).toNat)) ∧
    (∀ g : List Char, (∀ c ∈ g, c ≠ '[' ∧ c ≠ ']') →
      splitHostPort (tcpConfig ⟨'[' :: g ++ [']']⟩ port).address.toList =
        .ok (g, decDigits (tcpPort port).toNat)) ∧
    (':' ∈ host.toList → host.toList.head? ≠ some '[' →
      splitHostPort (tcpConfig host port).address.toList = .error .tooManyColons) := by
  have hd := decDigits_plain (tcpPort port).toNat
  refine ⟨fun hh => ?_, fun g hg => ?_, fun hc hb => ?_⟩
  · have hplain : ∀ c ∈ (tcpHost host).toList, c ≠ ':' ∧ c ≠ '[' ∧ c ≠ ']' := by
      unfold tcpHost; split
      · decide
      · exact hh
    have hhead : (tcpHost host).toList.head? ≠ some '[' := by
      unfold tcpHost; split
      · decide
      · intro h; exact (hh _ (List.mem_of_mem_head? h)).2.1 rfl
    rw [tcpConfig_address_toList, splitHostPort_plain hd hhead,
      if_neg fun h => (hplain _ h).1 rfl, if_neg fun h => (hplain _ h).2.1 rfl,
      if_neg fun h => (hplain _ h).2.2 rfl]
  · rw [tcpConfig_address_toList, tcpHost, if_neg (by simp [String.ext_iff])]
    exact splitHostPort_bracket hd hg
  · exact splitHostPort_tcpConfig_colon hc hb port

/-- `NewTCPClient("::1", 8080)`'s address fails to split; `NewTCPClient("[::1]", 8080)`'s splits
into `::1` and `8080`. -/
theorem tcpConfig_address_ipv6 :
    (':' ∈ "::1".toList ∧ "::1".toList.head? ≠ some '[' ∧
      splitHostPort (tcpConfig "::1" 8080).address.toList = .error .tooManyColons) ∧
    ((∀ c ∈ [':', ':', '1'], c ≠ '[' ∧ c ≠ ']') ∧
      splitHostPort (tcpConfig ⟨'[' :: [':', ':', '1'] ++ [']']⟩ 8080).address.toList =
        .ok ([':', ':', '1'], decDigits (tcpPort 8080).toNat)) :=
  ⟨⟨by decide, by decide, (tcpConfig_address "::1" 8080).2.2 (by decide) (by decide)⟩,
    ⟨by decide, (tcpConfig_address "" 8080).2.1 _ (by decide)⟩⟩

/-! ## The dial

`dialer.DialContext(ctx, "tcp", address)` calls `resolveAddrList`, whose `internetAddrList`
splits the address with `SplitHostPort` before it resolves the host or tries a connection. -/

/-- `AddrError.Err`, the reason's text. -/
def AddrReason.text : AddrReason → String
  | .missingPort => "missing port in address"
  | .tooManyColons => "too many colons in address"
  | .missingBracket => "missing ']' in address"
  | .unexpectedOpen => "unexpected '[' in address"
  | .unexpectedClose => "unexpected ']' in address"

/-- The `OpError` of a dial whose address does not split: `Op` `dial`, `Net` the network, no
`Addr`, around the `AddrError` of the whole address. -/
def dialAddrError (cfg : Config) (r : AddrReason) : Err :=
  .net ("dial " ++ cfg.network ++ ": address " ++ cfg.address ++ ": " ++ r.text)

/-- `dialer.DialContext(ctx, "tcp", c.config.Address)` at `now` under `deadline`: an address that
does not split fails the dial; otherwise the deadline and the peer decide, as in
`dialContext`, the peer resolving the host. -/
def dialTCP (cfg : Config) (now : Int) (deadline : Option Int) (peer : Option Int → Option Err) :
    Option Err :=
  match splitHostPort cfg.address.toList with
  | .error r => some (dialAddrError cfg r)
  | .ok _ => dialContext cfg now deadline peer

namespace Client

variable (cfg : Config) (env : Nat → Attempt) (draw : Nat → ℚ)

/-- **Every pass of a loop whose dials all fail**, from no connection, dials and fails, and
writes nothing; the loop ends on the dial's error. -/
theorem runPasses_dial_error {e : Err} (hd : ∀ k, (env k).dial = some e) :
    ∀ (n k : Nat) (l : Option Err) (c : Client), c.conn = none →
      (runPasses cfg env draw (n + 1) k l c).1 = .error (some (.connect cfg.network cfg.address e)) ∧
        ∀ p ∈ (runPasses cfg env draw (n + 1) k l c).2.2,
          p.connect = some (some (.connect cfg.network cfg.address e)) ∧ p.send = none := by
  have hpass : ∀ k t (c : Client), c.conn = none →
      (runPass cfg (draw k) (env k) t c).connect = some (some (.connect cfg.network cfg.address e)) ∧
        (runPass cfg (draw k) (env k) t c).send = none := fun k t c hc => by
    simp [runPass, ensureConn, connect, hc, hd k]
  intro n
  induction n with
  | zero =>
    intro k l c hc
    rw [runPasses_error cfg env draw (attempt_of_dial_error cfg hc (hd k))]
    exact ⟨rfl, fun p hp => List.mem_singleton.mp hp ▸ hpass k k c hc⟩
  | succ n ih =>
    intro k l c hc
    rw [runPasses_error cfg env draw (attempt_of_dial_error cfg hc (hd k))]
    obtain ⟨h₁, h₂⟩ := ih (k + 1) _ { c with conn := none } rfl
    exact ⟨h₁, fun p hp => (List.mem_cons.mp hp).elim (· ▸ hpass k k c hc) (h₂ p)⟩

/-- **A client for a bare IPv6 host never connects**: every dial fails in `SplitHostPort`
before any peer is asked, so every attempt fails without writing. -/
theorem sendWithRetryLoop_bare_ipv6 {host : String} (hc : ':' ∈ host.toList)
    (hb : host.toList.head? ≠ some '[') (port : Int) {env : Nat → Attempt}
    (hd : ∀ k, ∃ now deadline peer, (env k).dial = dialTCP (tcpConfig host port) now deadline peer)
    {fuel : Nat} (hf : 4 < fuel) (now₀ now₁ : Int) (draw : Nat → ℚ) {c : Client}
    (hconn : c.conn = none) :
    ∃ err c' ps rs, c.sendWithRetryLoop (tcpConfig host port) fuel now₀ now₁ env draw =
        some (err, c', ps, rs) ∧ c'.conn = none ∧
      (∀ p ∈ ps, p.connect = some (some (.connect "tcp" (tcpConfig host port).address
          (dialAddrError (tcpConfig host port) .tooManyColons))) ∧ p.send = none) ∧
      (err = some .circuitOpen ∨ err = some (.sendExhausted 4 (.connect "tcp" (tcpConfig host port).address
          (dialAddrError (tcpConfig host port) .tooManyColons)))) := by
  set cfg := tcpConfig host port
  have he : ∀ k, (env k).dial = some (dialAddrError cfg .tooManyColons) := fun k => by
    obtain ⟨now, deadline, peer, h⟩ := hd k
    rw [h, dialTCP, splitHostPort_tcpConfig_colon hc hb port]
  have hm : cfg.maxRetries = 3 := rfl
  have hn : (cfg.maxRetries + 1).toNat = 3 + 1 := rfl
  rcases hce : c.cb.canExecute cfg now₀ with ⟨_ | e, cb⟩
  · rw [sendWithRetryLoop_admitted cfg now₁ env draw hce,
      sendLoop_start cfg env draw (by rw [hm]; decide) (by rw [hm]; decide) (by rw [hn]; exact hf), hn]
    obtain ⟨h₁, h₂⟩ := runPasses_dial_error cfg env draw he 3 0 none { c with cb := cb } hconn
    obtain ⟨hc', -⟩ := runPasses_error_last cfg env draw h₁
    rcases hR : runPasses cfg env draw (3 + 1) 0 none { c with cb := cb } with ⟨res, c', ps⟩
    rw [hR] at h₁ h₂ hc'
    cases h₁
    exact ⟨_, _, _, _, rfl, hc', h₂, .inr rfl⟩
  · refine ⟨_, { c with cb := cb }, _, _, by rw [sendWithRetryLoop, hce], hconn,
      fun p hp => absurd hp (List.not_mem_nil p), .inl (congrArg some (canExecute_refuses cfg hce))⟩

end Client

/-- `NewTCPClient("::1", 8080)` on a fresh client, every dial at clock `0` with no deadline
against a peer that would accept. -/
theorem sendWithRetryLoop_bare_ipv6_default :
    ':' ∈ "::1".toList ∧ "::1".toList.head? ≠ some '[' ∧
      ∃ err c' ps rs, Client.idleClient.sendWithRetryLoop (tcpConfig "::1" 8080) 5 0 0
          (fun _ => ⟨dialTCP (tcpConfig "::1" 8080) 0 none fun _ => none, none, none, ("", "")⟩)
          (fun _ => 0) =
          some (err, c', ps, rs) ∧ c'.conn = none ∧
        (∀ p ∈ ps, p.connect = some (some (.connect "tcp" (tcpConfig "::1" 8080).address
            (dialAddrError (tcpConfig "::1" 8080) .tooManyColons))) ∧ p.send = none) ∧
        (err = some .circuitOpen ∨ err = some (.sendExhausted 4 (.connect "tcp" (tcpConfig "::1" 8080).address
            (dialAddrError (tcpConfig "::1" 8080) .tooManyColons)))) :=
  ⟨by decide, by decide, Client.sendWithRetryLoop_bare_ipv6 (by decide) (by decide) 8080
    (fun _ => ⟨0, none, fun _ => none, rfl⟩) (by decide) 0 0 (fun _ => 0) rfl⟩

end LogFlux
