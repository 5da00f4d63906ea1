import Mathlib.Data.String.Basic
import RedisAnet.Anet.Accept

/-!
# Addresses as text

`anetResolve` turns a host name into the text of its first address, `anetFdToString` reads
the address of a socket or of its peer, and `anetFormatAddr` prints an address and a port as
`ip:port`, with an address that has a colon (IPv6) in brackets; the buffers are bytes, cut
and counted as `snprintf` and `inet_ntop` do.  Splitting the printed form at its last colon
and taking the brackets off gives back the address and the port's text, so no two pairs
print alike, and every text these functions leave in a caller's buffer fits it with its NUL.
-/

namespace RedisAnet.Anet

open RedisAnet.Kernel

/-- `snprintf(buf, size, ...)` of the bytes `text`: what `buf` holds afterwards (`none`:
left as it was, for `size` `0`) and the return value, the length of the whole text. -/
def snprintf (size : Nat) (text : List UInt8) : Option (List UInt8) × Int :=
  (if size = 0 then none else some (text.take (size - 1)), text.length)

/-- The text of `strchr(ip,':') ? "[%s]:%d" : "%s:%d"` with `ip` and `port`. -/
def formatAddr (ip : List UInt8) (port : Int) : List UInt8 :=
  if ':'.toUInt8 ∈ ip then ascii "[" ++ ip ++ ascii "]:" ++ ascii (toString port)
  else ip ++ ascii ":" ++ ascii (toString port)

def anetFormatAddr (buf_len : Nat) (ip : List UInt8) (port : Int) : Option (List UInt8) × Int :=
  snprintf buf_len (formatAddr ip port)

/-- `ipbuf` as `inet_ntop` leaves it (`none`: not written) with the return value; `none`
when `getaddrinfo` succeeds with no entry, where `info->ai_family` reads through a null
pointer. -/
def anetResolve (err : ErrPtr) (host : String) (ipbuf_len : Nat) (flags : Int) :
    Os (Option (Int × Option (List UInt8))) := do
  let hints : Hints :=
    { flags := if Int.land flags ANET_IP_ONLY ≠ 0 then AI_NUMERICHOST else 0,
      family := AF_UNSPEC, socktype := SOCK_STREAM }
  match ← getaddrinfo (some host) none hints with
  | .error rv =>
      anetSetError err "%s" (.gaiStrerror rv)
      return some (ANET_ERR, none)
  | .ok info =>
      match info.entries with
      | [] => return none
      | ai :: _ =>
          let ipbuf := inetNtop ai.addr.host ipbuf_len
          freeaddrinfo info
          return some (ANET_OK, ipbuf)

/-- The `error:` block of `anetFdToString`: `"?"` or `""` as the buffer allows, port `0`,
return value `-1`. -/
def fdToStringError (ip_len : Nat) : Int × Option (List UInt8) × Nat :=
  (-1, if ip_len ≥ 2 then some (ascii "?") else if ip_len = 1 then some [] else none, 0)

/-- The return value, what is left in `ip` (`none`: not written) and `*port`. -/
def anetFdToString (fd : Int) (ip_len : Nat) (fd_to_str_type : Int) :
    Os (Int × Option (List UInt8) × Nat) := do
  let (r, sa) ← (if fd_to_str_type = FD_TO_PEER_NAME then getpeername fd
    else getsockname fd : Os (Int × Option SockAddr))
  let sa := sa.getD (.other AF_UNSPEC)
  if r = -1 ∨ ip_len = 0 then
    return fdToStringError ip_len
  else if sa.family = AF_INET ∨ sa.family = AF_INET6 then
    return (0, inetNtop sa.host ip_len, sa.port)
  else if sa.family = AF_UNIX then
    return (0, (snprintf ip_len (ascii "/unixsocket")).1, 0)
  else
    return fdToStringError ip_len

/-- `none` when `anetFdToString` leaves the uninitialised `ip` unwritten and
`anetFormatAddr` reads it. -/
def anetFormatFdAddr (fd : Int) (buf_len : Nat) (fd_to_str_type : Int) :
    Os (Option (Option (List UInt8) × Int)) := do
  let (_, ip, port) ← anetFdToString fd INET6_ADDRSTRLEN fd_to_str_type
  return ip.map fun ip => anetFormatAddr buf_len ip port

/-! ## Parsing the printed form back -/

/-- The parts before and after the last `c`, or `none` without one. -/
def splitLast {α : Type} [DecidableEq α] (c : α) : List α → Option (List α × List α)
  | [] => none
  | x :: xs =>
      match splitLast c xs with
      | some (a, b) => some (x :: a, b)
      | none => if x = c then some ([], xs) else none

/-- An address part in brackets with a colon inside is an IPv6 address: the brackets
come off. -/
def unbracket (host : List UInt8) : List UInt8 :=
  if host.head? = some '['.toUInt8 ∧ host.getLast? = some ']'.toUInt8 ∧ ':'.toUInt8 ∈ host then
    (host.drop 1).dropLast
  else host

/-- Address and port text of `ip:port` or `[ip]:port`. -/
def parseAddr? (s : List UInt8) : Option (List UInt8 × List UInt8) :=
  (splitLast ':'.toUInt8 s).map fun (host, port) => (unbracket host, port)

section SplitLast

variable {α : Type} [DecidableEq α] {c : α}

theorem splitLast_of_not_mem {xs : List α} (h : c ∉ xs) : splitLast c xs = none := by
  induction xs with
  | nil => rfl
  | cons x xs ih =>
      rw [List.mem_cons, not_or] at h
      simp only [splitLast, ih h.2, if_neg (Ne.symm h.1)]

theorem splitLast_append (a : List α) {b : List α} (h : c ∉ b) :
    splitLast c (a ++ c :: b) = some (a, b) := by
  induction a with
  | nil => simp only [List.nil_append, splitLast, splitLast_of_not_mem h, if_pos]
  | cons x a ih => rw [List.cons_append, splitLast, ih]

end SplitLast

private theorem digitChar_ne_colon (n : Nat) : (Nat.digitChar (n % 10)).toUInt8 ≠ ':'.toUInt8 :=
  have digits : ∀ d : Fin 10, (Nat.digitChar d).toUInt8 ≠ ':'.toUInt8 := by decide
  digits ⟨n % 10, Nat.mod_lt n (by decide)⟩

private theorem colon_not_mem_toDigitsCore (f n : Nat) {ds : List Char}
    (h : ':'.toUInt8 ∉ ds.map Char.toUInt8) :
    ':'.toUInt8 ∉ (Nat.toDigitsCore 10 f n ds).map Char.toUInt8 := by
  induction f generalizing n ds with
  | zero => exact h
  | succ f ih =>
      have hd : ':'.toUInt8 ∉ (Nat.digitChar (n % 10) :: ds).map Char.toUInt8 :=
        List.not_mem_cons_of_ne_of_not_mem (digitChar_ne_colon n).symm h
      change ':'.toUInt8 ∉ (if n / 10 = 0 then Nat.digitChar (n % 10) :: ds
        else Nat.toDigitsCore 10 f (n / 10) (Nat.digitChar (n % 10) :: ds)).map Char.toUInt8
      split
      · exact hd
      · exact ih _ hd

theorem colon_not_mem_toString (port : Int) : ':'.toUInt8 ∉ ascii (toString port) := by
  cases port with
  | ofNat n => exact colon_not_mem_toDigitsCore _ _ (List.not_mem_nil _)
  | negSucc n =>
      show ':'.toUInt8 ∉ ('-' :: Nat.toDigits 10 (n + 1)).map Char.toUInt8
      exact List.not_mem_cons_of_ne_of_not_mem (by decide)
        (colon_not_mem_toDigitsCore _ _ (List.not_mem_nil _))

theorem parseAddr?_formatAddr (ip : List UInt8) (port : Int) :
    parseAddr? (formatAddr ip port) = some (ip, ascii (toString port)) := by
  have hport := colon_not_mem_toString port
  have hopen : ascii "[" = ['['.toUInt8] := rfl
  have hclose : ascii "]:" = [']'.toUInt8, ':'.toUInt8] := rfl
  have hcolon : ascii ":" = [':'.toUInt8] := rfl
  unfold parseAddr? formatAddr
  split_ifs with hip
  · -- IPv6: `[ip]:port`
    have hdata : ascii "[" ++ ip ++ ascii "]:" ++ ascii (toString port) =
        ('['.toUInt8 :: ip ++ [']'.toUInt8]) ++ ':'.toUInt8 :: ascii (toString port) := by
      simp only [hopen, hclose, List.append_assoc, List.cons_append, List.singleton_append,
        List.nil_append]
    have hhost : unbracket ('['.toUInt8 :: ip ++ [']'.toUInt8]) = ip := by
      rw [unbracket, if_pos ⟨rfl, List.getLast?_concat _,
        List.mem_cons_of_mem _ (List.mem_append_left _ hip)⟩]
      simp
    rw [hdata, splitLast_append _ hport]
    simp only [Option.map_some', hhost]
  · -- `ip:port`
    have hdata :
        ip ++ ascii ":" ++ ascii (toString port) = ip ++ ':'.toUInt8 :: ascii (toString port) := by
      simp only [hcolon, List.append_assoc, List.singleton_append]
    have hhost : unbracket ip = ip := if_neg fun h => hip h.2.2
    rw [hdata, splitLast_append _ hport]
    simp only [Option.map_some', hhost]

/-! ## What is left in the caller's buffers -/

theorem keeps_anetFdToString (fd : Int) (ip_len : Nat) (fd_to_str_type : Int) :
    Keeps (anetFdToString fd ip_len fd_to_str_type) :=
  (Preserves.ite (keeps_getpeername fd) (keeps_getsockname fd)).bind fun _ =>
    .ite (.pure _) (.ite (.pure _) (.ite (.pure _) (.pure _)))

theorem keeps_anetFormatFdAddr (fd : Int) (buf_len : Nat) (fd_to_str_type : Int) :
    Keeps (anetFormatFdAddr fd buf_len fd_to_str_type) :=
  (keeps_anetFdToString _ _ _).bind fun _ => .pure _

theorem snprintf_fits {size : Nat} {text : List UInt8} (h : (snprintf size text).2 < size) :
    (snprintf size text).1 = some text := by
  have hlen : text.length < size := by simpa [snprintf] using h
  rw [snprintf, if_neg (by omega)]
  exact congrArg some (List.take_of_length_le (by omega))

theorem snprintf_length_lt {size : Nat} {text s : List UInt8}
    (h : (snprintf size text).1 = some s) : s.length < size := by
  rw [snprintf] at h
  split_ifs at h with h0
  cases h
  rw [List.length_take]
  omega

theorem inetNtop_length_lt {text s : List UInt8} {size : Nat} (h : inetNtop text size = some s) :
    s.length < size := by
  rw [inetNtop] at h
  split_ifs at h with hlt
  cases h
  exact hlt

/-- When the return value of `anetFormatAddr` shows that nothing was cut off, the buffer
parses back to the address and the port's text. -/
theorem anetFormatAddr_parses (buf_len : Nat) (ip : List UInt8) (port : Int)
    (h : (anetFormatAddr buf_len ip port).2 < buf_len) :
    (anetFormatAddr buf_len ip port).1.bind parseAddr? = some (ip, ascii (toString port)) := by
  rw [anetFormatAddr, snprintf_fits h, Option.some_bind, parseAddr?_formatAddr]

theorem anetFormatAddr_parses_loopback6 :
    (anetFormatAddr 64 (ascii "::1") 6379).2 < 64 ∧
      (anetFormatAddr 64 (ascii "::1") 6379).1.bind parseAddr? =
        some (ascii "::1", ascii (toString (6379 : Int))) :=
  have hfits : (anetFormatAddr 64 (ascii "::1") 6379).2 < 64 := by decide
  ⟨hfits, anetFormatAddr_parses 64 (ascii "::1") 6379 hfits⟩

theorem fdToStringError_fits (ip_len : Nat) (s : List UInt8)
    (h : (fdToStringError ip_len).2.1 = some s) : s.length < ip_len := by
  rw [fdToStringError] at h
  split_ifs at h with h2 h1 <;> cases h
  · show 1 < ip_len
    omega
  · show 0 < ip_len
    omega

theorem anetFdToString_spec (fd : Int) (ip_len : Nat) (fd_to_str_type : Int) (w : World) :
    wp (anetFdToString fd ip_len fd_to_str_type) (fun r w' => w'.res = w.res ∧
      (r = fdToStringError ip_len ∨ (∃ sa : SockAddr, r = (0, inetNtop sa.host ip_len, sa.port)) ∨
        r = (0, (snprintf ip_len (ascii "/unixsocket")).1, 0))) w := by
  simp only [anetFdToString, wp_bind]
  refine wp_of_keeps (.ite (keeps_getpeername fd) (keeps_getsockname fd)) ?_
  rintro ⟨r, sa⟩ w' hres
  simp only [wp_ite, wp_pure]
  split_ifs
  · exact ⟨hres, .inl trivial⟩
  · exact ⟨hres, .inr (.inl ⟨_, rfl⟩)⟩
  · exact ⟨hres, .inr (.inr trivial)⟩
  · exact ⟨hres, .inl trivial⟩

theorem fdToString_result_fits {ip_len : Nat} {r : Int × Option (List UInt8) × Nat}
    (hr : r = fdToStringError ip_len ∨ (∃ sa : SockAddr, r = (0, inetNtop sa.host ip_len, sa.port)) ∨
      r = (0, (snprintf ip_len (ascii "/unixsocket")).1, 0)) :
    ∀ s, r.2.1 = some s → s.length < ip_len := by
  rcases hr with rfl | ⟨sa, rfl⟩ | rfl
  · exact fdToStringError_fits ip_len
  · exact fun _ => inetNtop_length_lt
  · exact fun _ => snprintf_length_lt

theorem fdToString_result_written {r : Int × Option (List UInt8) × Nat}
    (hr : r = fdToStringError INET6_ADDRSTRLEN ∨
      (∃ sa : SockAddr, r = (0, inetNtop sa.host INET6_ADDRSTRLEN, sa.port)) ∨
      r = (0, (snprintf INET6_ADDRSTRLEN (ascii "/unixsocket")).1, 0)) :
    r.2.1.isSome := by
  rcases hr with rfl | ⟨sa, rfl⟩ | rfl
  · rfl
  · simp only [inetNtop, if_pos sa.host_length_lt, Option.isSome_some]
  · rfl

/-- `anetFdToString` changes no resource and returns `0`, or `-1` with port `0`; any text
it leaves in `ip` fits `ip_len` bytes with its NUL. -/
theorem anetFdToString_fits (fd : Int) (ip_len : Nat) (fd_to_str_type : Int) (w : World) :
    wp (anetFdToString fd ip_len fd_to_str_type) (fun r w' => w'.res = w.res ∧
      (r.1 = 0 ∨ r.1 = -1 ∧ r.2.2 = 0) ∧ ∀ s, r.2.1 = some s → s.length < ip_len) w := by
  refine wp_mono (anetFdToString_spec fd ip_len fd_to_str_type w) fun r _ ⟨hres, hr⟩ =>
    ⟨hres, ?_, fdToString_result_fits hr⟩
  rcases hr with rfl | ⟨sa, rfl⟩ | rfl
  · exact .inr ⟨rfl, rfl⟩
  · exact .inl rfl
  · exact .inl rfl

/-- The runs of `anetResolve`: the crash on a success with no entry, or a result, with the
list it obtained released and any text in `ipbuf` within `ipbuf_len` bytes with its NUL. -/
theorem anetResolve_cases (err : ErrPtr) (host : String) (ipbuf_len : Nat) (flags : Int)
    (w : World) :
    wp (anetResolve err host ipbuf_len flags) (fun r w' =>
      (r = none ∧ w.reply (.getaddrinfo (some host) none
        { flags := if Int.land flags ANET_IP_ONLY ≠ 0 then AI_NUMERICHOST else 0,
          family := AF_UNSPEC, socktype := SOCK_STREAM }) = (.ok [] : Except Int (List AddrInfo))) ∨
      (w.reply (.getaddrinfo (some host) none
        { flags := if Int.land flags ANET_IP_ONLY ≠ 0 then AI_NUMERICHOST else 0,
          family := AF_UNSPEC, socktype := SOCK_STREAM }) ≠ (.ok [] : Except Int (List AddrInfo)) ∧
        Clean w.res w'.res ∧ ∃ v, r = some v ∧ ∀ s, v.2 = some s → s.length < ipbuf_len)) w := by
  simp only [anetResolve, wp_bind, wp_getaddrinfo]
  split
  · next entries heq =>
    rcases entries with _ | ⟨ai, _⟩
    · exact .inl ⟨rfl, heq⟩
    · simp only [wp_freeaddrinfo, wp_pure]
      exact .inr ⟨heq ▸ nofun, by simpa using Clean.bracket (.refl _), _, rfl,
        fun _ => inetNtop_length_lt⟩
  · next rv heq =>
    exact wp_of_keeps (preserves_anetSetError err _ _) fun _ w' hres =>
      .inr ⟨heq ▸ nofun, .of_eq hres, _, rfl, fun _ h => Option.noConfusion h⟩

/-- `anetResolve` ends in the null dereference exactly when `getaddrinfo` succeeds with no
entry; otherwise it releases the list it obtains, changes nothing else, and any text it
leaves in `ipbuf` fits `ipbuf_len` bytes with its NUL. -/
theorem anetResolve_clean (err : ErrPtr) (host : String) (ipbuf_len : Nat) (flags : Int)
    (w : World) :
    wp (anetResolve err host ipbuf_len flags) (fun r w' =>
      (r = none ↔ w.reply (.getaddrinfo (some host) none
        { flags := if Int.land flags ANET_IP_ONLY ≠ 0 then AI_NUMERICHOST else 0,
          family := AF_UNSPEC, socktype := SOCK_STREAM }) = (.ok [] : Except Int (List AddrInfo))) ∧
      ∀ v, r = some v → Clean w.res w'.res ∧ ∀ s, v.2 = some s → s.length < ipbuf_len) w :=
  wp_mono (anetResolve_cases err host ipbuf_len flags w) fun _ _ h => by
    rcases h with ⟨rfl, hnil⟩ | ⟨hne, hclean, v, rfl, hfits⟩
    · exact ⟨iff_of_true rfl hnil, fun _ h => Option.noConfusion h⟩
    · exact ⟨iff_of_false Option.noConfusion hne, fun _ h => by cases h; exact ⟨hclean, hfits⟩⟩

/-- `anetFormatFdAddr` changes no resource and always formats an address, and when its
return value shows that nothing was cut off, the buffer parses back to an address that
fits `INET6_ADDRSTRLEN` and the text of a port. -/
theorem anetFormatFdAddr_parses (fd : Int) (buf_len : Nat) (fd_to_str_type : Int) (w : World) :
    wp (anetFormatFdAddr fd buf_len fd_to_str_type) (fun r w' => w'.res = w.res ∧
      ∃ buf n, r = some (buf, n) ∧ (n < buf_len → ∃ (text ip : List UInt8) (port : Nat),
        buf = some text ∧ parseAddr? text = some (ip, ascii (toString (port : Int))) ∧
          ip.length < INET6_ADDRSTRLEN)) w := by
  simp only [anetFormatFdAddr, wp_bind, wp_pure]
  refine wp_mono (anetFdToString_spec fd INET6_ADDRSTRLEN fd_to_str_type w) ?_
  rintro ⟨_, ip, port⟩ w' ⟨hres, hr⟩
  obtain ⟨ip, rfl⟩ := Option.isSome_iff_exists.1 (fdToString_result_written hr)
  exact ⟨hres, _, _, rfl, fun hn => ⟨_, ip, port, snprintf_fits hn, parseAddr?_formatAddr ip port,
    fdToString_result_fits hr ip rfl⟩⟩

end RedisAnet.Anet
