import RustOp.Web.Register
import RustOp.Web.ReturnAddresses

/-!
Where an invitation may lead back to. The provider reads an origin off an address
by a few delimiters, and a browser goes by more of them.
-/
namespace RustOp.Web.register
open RustOp.Text

/-! ### The provider -/

/-- What ends the host for the provider. -/
def ends_host (c : Char) : Bool := c == '/' || c == '?' || c == '#'

/-- `scheme://host[:port]`, with https, or http on this machine. -/
def url_origin (u : String) : Option String := do
  let (scheme, rest) ← split_once_str "://".toList u.toList
  let host := rest.takeWhile fun c => !ends_host c
  if host.isEmpty ∨ '@' ∈ host then
    none
  else
    let hostname := (split ':' host).headD host
    if scheme = "https".toList then some ("https://" ++ String.ofList host)
    else if scheme = "http".toList ∧ (hostname = "localhost".toList ∨ hostname = "127.0.0.1".toList) then
      some ("http://" ++ String.ofList host)
    else none

/-- An address may be returned to under the origin of a redirect address of the client. -/
def return_to_allowed (client : Client) (return_to : String) : Bool :=
  if byte_len return_to > 2000 ∨
      return_to.toList.any fun c => is_whitespace c || is_control c || "\\\"'<>`".toList.contains c then
    false
  else
    match url_origin return_to with
    | none => false
    | some origin =>
      (return_to == origin || starts_with (origin ++ "/") return_to) &&
        client.redirect_uris.any fun r => url_origin r == some origin

/-! ### Browsers -/

/-- An origin, without the port of its scheme. Equal hosts stay equal in the form
    that browsers write them in. -/
structure Origin where
  scheme : String
  host : String
  port : Option String
deriving DecidableEq, Repr

/-- Characters at the ends of an address that browsers pass over. -/
def trimmed (c : Char) : Bool := c.toNat ≤ 0x20

/-- Characters that they pass over everywhere. -/
def ignored (c : Char) : Bool := c == '\t' || c == '\n' || c == '\r'

def slash (c : Char) : Bool := c == '/' || c == '\\'

/-- The host ends at the first colon outside of brackets, and the port follows. -/
def split_port : Bool → List Char → List Char × List Char
  | _, [] => ([], [])
  | inside, c :: rest =>
    if c = ':' ∧ inside = false then ([], rest)
    else
      let (host, port) := split_port (c == '[' || (inside && c != ']')) rest
      (c :: host, port)

/-- The port that a scheme of the web has by itself. -/
def default_port (scheme : String) : Option String :=
  if scheme = "https" then some "443" else if scheme = "http" then some "80" else none

/-- The origin of a scheme and what stands behind the userinfo. -/
def origin_of (scheme default_port : String) (host_port : List Char) : Origin :=
  let (host, port) := split_port false host_port
  ⟨scheme, String.ofList (host.map Char.toLower),
    if port.isEmpty ∨ String.ofList port = default_port then none else some (String.ofList port)⟩

/-- The origin a browser finds in an address of the web. -/
def browser_origin (url : String) : Option Origin := do
  let text := (trim_end_matches trimmed (url.toList.dropWhile trimmed)).filter (!ignored ·)
  let scheme := String.ofList ((text.takeWhile (· ≠ ':')).map Char.toLower)
  let port ← default_port scheme
  let some rest := (text.dropWhile (· ≠ ':')).tail? | none
  let authority := (rest.dropWhile slash).takeWhile fun c => !ReturnAddresses.ends_authority c
  return origin_of scheme port (authority.reverse.takeWhile (· ≠ '@')).reverse

example : browser_origin " HTTPS:\\\\rp.example@EV\til.com:443\\@rp.example/cb" = some ⟨"https", "evil.com", none⟩ := by
  decide +kernel

/-! ### What the provider finds -/

/-- Nothing follows, or what ends the host. -/
def Ends (tail : List Char) : Prop := ∀ c ∈ tail.head?, ends_host c = true

/-- An address in the parts that the provider takes for the scheme and the host. -/
structure Parts (u : String) (scheme host tail : List Char) : Prop where
  whole : u.toList = scheme ++ ':' :: '/' :: '/' :: (host ++ tail)
  web : scheme = "https".toList ∨
    scheme = "http".toList ∧ (host.takeWhile (· ≠ ':') = "localhost".toList ∨ host.takeWhile (· ≠ ':') = "127.0.0.1".toList)
  nonempty : host ≠ []
  plain : ∀ c ∈ host, ends_host c = false ∧ c ≠ '@'
  ends : Ends tail

theorem url_origin_parts {u origin : String} (found : url_origin u = some origin) :
    ∃ scheme host tail, Parts u scheme host tail ∧ origin.toList = scheme ++ ':' :: '/' :: '/' :: host := by
  unfold url_origin at found
  obtain ⟨⟨scheme, rest⟩, split, found⟩ := Option.bind_eq_some_iff.mp found
  have whole := split_once_str_whole split
  simp only [headD_split] at found
  split at found
  · cases found
  rename_i accepted
  obtain ⟨nonempty, bare⟩ := not_or.mp accepted
  refine ⟨scheme, rest.takeWhile fun c => !ends_host c, rest.dropWhile fun c => !ends_host c, ?_⟩
  have parts : (scheme = "https".toList ∨ scheme = "http".toList ∧
      ((rest.takeWhile fun c => !ends_host c).takeWhile (· ≠ ':') = "localhost".toList ∨
        (rest.takeWhile fun c => !ends_host c).takeWhile (· ≠ ':') = "127.0.0.1".toList)) →
      Parts u scheme (rest.takeWhile fun c => !ends_host c) (rest.dropWhile fun c => !ends_host c) := by
    intro web
    refine ⟨?_, web, by simpa using nonempty, fun c listed => ⟨?_, ?_⟩, ?_⟩
    · rw [whole, List.takeWhile_append_dropWhile, List.append_assoc]
      rfl
    · simpa using List.mem_takeWhile_imp listed
    · rintro rfl
      exact bare listed
    · intro c first
      have stops := List.head?_dropWhile_not (fun c => !ends_host c) rest
      rw [Option.mem_def.mp first] at stops
      simpa using stops
  split at found
  · rename_i https
    obtain rfl := Option.some.inj found
    refine ⟨parts (.inl https), ?_⟩
    simp [https]
  · split at found
    · rename_i http
      obtain rfl := Option.some.inj found
      refine ⟨parts (.inr http), ?_⟩
      simp [http.1]
    · cases found

/-- The origin tells the scheme and the host. -/
theorem Parts.same {u u' : String} {scheme scheme' host host' tail tail' : List Char} (parts : Parts u scheme host tail)
    (parts' : Parts u' scheme' host' tail')
    (same : scheme ++ ':' :: '/' :: '/' :: host = scheme' ++ ':' :: '/' :: '/' :: host') : scheme = scheme' ∧ host = host' := by
  rcases parts.web with https | ⟨http, -⟩ <;> rcases parts'.web with https' | ⟨http', -⟩
  · rw [https, https'] at same ⊢
    simpa using same
  · simp [https, http'] at same
  · simp [http, https'] at same
  · rw [http, http'] at same ⊢
    simpa using same

/-! ### What a browser finds -/

theorem Ends.front {tail tail' : List Char} (ends : Ends tail) (begins : tail' <+: tail) : Ends tail' := by
  intro c first
  obtain ⟨rest, rfl⟩ := begins
  cases tail' with
  | nil => cases first
  | cons d tail' => exact ends c first

theorem Ends.filter {tail : List Char} (ends : Ends tail) : Ends (tail.filter (!ignored ·)) := by
  cases tail with
  | nil => exact ends
  | cons d tail =>
    have delimits : ends_host d = true := ends d rfl
    have kept : ignored d = false := by
      simp only [ends_host, Bool.or_eq_true, beq_iff_eq] at delimits
      rcases delimits with (rfl | rfl) | rfl <;> decide
    rw [List.filter_cons_of_pos (by rw [kept]; rfl)]
    exact ends

/-- What stays at the front is not passed over at the end. -/
theorem trim_end_matches_append {drop : Char → Bool} {front tail : List Char} {c : Char} (last : front.getLast? = some c)
    (kept : drop c = false) : ∃ tail', trim_end_matches drop (front ++ tail) = front ++ tail' ∧ tail' <+: tail := by
  induction tail using List.reverseRecOn with
  | nil =>
    obtain ⟨front, rfl⟩ := List.getLast?_eq_some_iff.mp last
    refine ⟨[], ?_, List.prefix_rfl⟩
    simp [trim_end_matches, kept]
  | append_singleton tail d ih =>
    by_cases dropped : drop d = true
    · obtain ⟨tail', trimmed, begins⟩ := ih
      refine ⟨tail', ?_, begins.trans (List.prefix_append _ _)⟩
      rw [← trimmed, ← List.append_assoc, trim_end_matches, List.reverse_append, List.reverse_singleton, List.singleton_append,
        List.dropWhile_cons_of_pos dropped, trim_end_matches]
    · refine ⟨tail ++ [d], ?_, List.prefix_rfl⟩
      rw [← List.append_assoc, trim_end_matches, List.reverse_append, List.reverse_singleton, List.singleton_append,
        List.dropWhile_cons_of_neg dropped, List.reverse_cons, List.reverse_reverse]

/-- The schemes are written in letters that browsers keep. -/
theorem Parts.scheme_plain {u : String} {scheme host tail : List Char} (parts : Parts u scheme host tail) :
    (∀ c ∈ scheme, trimmed c = false ∧ c ≠ ':' ∧ c.toLower = c) ∧ scheme ≠ [] ∧
      ∃ port, default_port (String.ofList scheme) = some port := by
  rcases parts.web with https | ⟨http, -⟩
  · rw [https]
    exact ⟨by simp [trimmed], by simp, "443", rfl⟩
  · rw [http]
    exact ⟨by simp [trimmed], by simp, "80", rfl⟩

/-- A browser takes the same scheme and host, if the host has no character that it
    passes over or reads as a slash. -/
theorem Parts.browsed {u port : String} {scheme host tail : List Char} (parts : Parts u scheme host tail)
    (clean : ∀ c ∈ host, trimmed c = false ∧ c ≠ '\\') (by_itself : default_port (String.ofList scheme) = some port) :
    browser_origin u = some (origin_of (String.ofList scheme) port host) := by
  obtain ⟨letters, begins, -⟩ := parts.scheme_plain
  have kept : ∀ {c : Char}, trimmed c = false → ignored c = false := by
    intro c kept
    by_contra drops
    simp only [ignored, Bool.not_eq_false, Bool.or_eq_true, beq_iff_eq] at drops
    rcases drops with (rfl | rfl) | rfl <;> cases kept
  have front : ∀ c ∈ scheme ++ ':' :: '/' :: '/' :: host, trimmed c = false := by
    intro c listed
    simp only [List.mem_append, List.mem_cons] at listed
    rcases listed with listed | rfl | rfl | rfl | listed
    · exact (letters c listed).1
    · rfl
    · rfl
    · rfl
    · exact (clean c listed).1
  have start : u.toList.dropWhile trimmed = u.toList := by
    obtain ⟨c, rest, is⟩ := List.exists_cons_of_ne_nil begins
    rw [parts.whole, is, List.cons_append, List.dropWhile_cons_of_neg]
    rw [(letters c (is ▸ List.mem_cons_self)).1]
    exact Bool.false_ne_true
  obtain ⟨tail', trimmed_eq, tail_prefix⟩ : ∃ tail', trim_end_matches trimmed u.toList =
      (scheme ++ ':' :: '/' :: '/' :: host) ++ tail' ∧ tail' <+: tail := by
    have last : (scheme ++ ':' :: '/' :: '/' :: host).getLast? = some (host.getLast parts.nonempty) := by
      rw [List.getLast?_append_of_ne_nil _ (List.cons_ne_nil _ _)]
      simp [List.getLast?_cons, List.getLast?_eq_some_getLast parts.nonempty]
    have whole : u.toList = (scheme ++ ':' :: '/' :: '/' :: host) ++ tail := by simp [parts.whole]
    rw [whole]
    exact trim_end_matches_append last (clean _ (List.getLast_mem parts.nonempty)).1
  have ends := (parts.ends.front tail_prefix).filter
  have text : (trim_end_matches trimmed (u.toList.dropWhile trimmed)).filter (!ignored ·) =
      scheme ++ ':' :: '/' :: '/' :: (host ++ tail'.filter (!ignored ·)) := by
    rw [start, trimmed_eq, List.filter_append, List.filter_eq_self.mpr fun c listed => by rw [kept (front c listed)]; rfl]
    simp
  generalize tail'.filter (!ignored ·) = behind at ends text
  have before : ∀ c ∈ scheme, decide (c ≠ ':') = true := fun c listed => decide_eq_true (letters c listed).2.1
  have scheme_eq : (scheme ++ ':' :: '/' :: '/' :: (host ++ behind)).takeWhile (· ≠ ':') = scheme := by
    rw [List.takeWhile_append_of_pos before, List.takeWhile_cons_of_neg (by simp), List.append_nil]
  have rest_eq : (scheme ++ ':' :: '/' :: '/' :: (host ++ behind)).dropWhile (· ≠ ':') = ':' :: '/' :: '/' :: (host ++ behind) := by
    rw [List.dropWhile_append_of_pos before, List.dropWhile_cons_of_neg (by simp)]
  have slashes : ('/' :: '/' :: (host ++ behind)).dropWhile slash = host ++ behind := by
    obtain ⟨c, rest, is⟩ := List.exists_cons_of_ne_nil parts.nonempty
    have listed : c ∈ host := is ▸ List.mem_cons_self
    have other : slash c = false := by
      have plain := (parts.plain c listed).1
      simp only [ends_host, Bool.or_eq_false_iff] at plain
      simp [slash, plain.1.1, (clean c listed).2]
    rw [List.dropWhile_cons_of_pos rfl, List.dropWhile_cons_of_pos rfl, is, List.cons_append, List.dropWhile_cons_of_neg]
    simp [other]
  have authority : ((host ++ behind).takeWhile fun c => !ReturnAddresses.ends_authority c) = host := by
    have inside : ∀ c ∈ host, (!ReturnAddresses.ends_authority c) = true := by
      intro c listed
      have plain := (parts.plain c listed).1
      simp only [ends_host, Bool.or_eq_false_iff] at plain
      simp [ReturnAddresses.ends_authority, plain, (clean c listed).2]
    rw [List.takeWhile_append_of_pos inside]
    cases behind with
    | nil => simp
    | cons c rest =>
      have delimits := ends c rfl
      have stops : ReturnAddresses.ends_authority c = true := by
        simp only [ends_host, Bool.or_eq_true, beq_iff_eq] at delimits
        rcases delimits with (rfl | rfl) | rfl <;> decide
      rw [List.takeWhile_cons_of_neg (by simp [stops]), List.append_nil]
  have bare : (host.reverse.takeWhile (· ≠ '@')).reverse = host := by
    rw [List.takeWhile_eq_self_iff.mpr, List.reverse_reverse]
    intro c listed
    exact decide_eq_true (parts.plain c (List.mem_reverse.mp listed)).2
  have lower : scheme.map Char.toLower = scheme := by
    rw [List.map_congr_left fun c listed => (letters c listed).2.2, List.map_id']
  simp only [browser_origin, text, scheme_eq, lower, by_itself, rest_eq, Option.bind_eq_bind, Option.bind_some, List.tail?_cons, slashes, authority,
    bare, Option.pure_def]

/-- A host in front of a port is not split elsewhere. -/
theorem split_port_host {host name : List Char} (named : host.takeWhile (· ≠ ':') = name) (bracketless : '[' ∉ name) :
    (split_port false host).1 = name := by
  induction host generalizing name with
  | nil => exact named
  | cons c rest ih =>
    unfold split_port
    by_cases colon : c = ':'
    · rw [if_pos ⟨colon, rfl⟩]
      simpa [colon] using named
    · rw [List.takeWhile_cons_of_pos (by simpa using colon)] at named
      rw [if_neg fun stops => colon stops.1, ← named]
      rw [← named] at bracketless
      obtain ⟨other, bracketless⟩ := List.ne_and_not_mem_of_not_mem_cons bracketless
      have outside : (c == '[' || (false && c != ']')) = false := by simpa using Ne.symm other
      rw [outside]
      exact congrArg (c :: ·) (ih rfl bracketless)

/-! ### Accepted addresses -/

/-- A browser that is sent back to an accepted address stays on an origin of the
    client, and leaves https for this machine only. -/
theorem return_to_stays (client : Client) (return_to : String) (accepted : return_to_allowed client return_to = true) :
    ∃ origin, browser_origin return_to = some origin ∧
      (origin.scheme = "https" ∨ origin.scheme = "http" ∧ (origin.host = "localhost" ∨ origin.host = "127.0.0.1")) ∧
      ∃ r ∈ client.redirect_uris, browser_origin r = some origin := by
  unfold return_to_allowed at accepted
  split at accepted
  · cases accepted
  rename_i clean
  obtain ⟨-, clean⟩ := not_or.mp clean
  split at accepted
  · cases accepted
  rename_i text found
  obtain ⟨-, registered⟩ := Bool.and_eq_true_iff.mp accepted
  obtain ⟨r, listed, same⟩ := List.any_eq_true.mp registered
  obtain ⟨scheme, host, tail, parts, text_eq⟩ := url_origin_parts found
  obtain ⟨scheme', host', tail', parts', text_eq'⟩ := url_origin_parts (beq_iff_eq.mp same)
  obtain ⟨rfl, rfl⟩ := parts.same parts' (text_eq.symm.trans text_eq')
  have plain : ∀ c ∈ host, trimmed c = false ∧ c ≠ '\\' := by
    intro c inside
    have sent : c ∈ return_to.toList := by
      rw [parts.whole]
      simp [inside]
    have other : ¬ (is_whitespace c || is_control c || "\\\"'<>`".toList.contains c) = true := fun bad =>
      clean (List.any_eq_true.mpr ⟨c, sent, bad⟩)
    simp only [Bool.not_eq_true, Bool.or_eq_false_iff] at other
    obtain ⟨⟨white, control⟩, quoted⟩ := other
    constructor
    · by_contra low
      simp only [trimmed, decide_eq_false_iff_not, not_not] at low
      simp only [is_control, Bool.or_eq_false_iff, decide_eq_false_iff_not] at control
      have blank : c.toNat = 0x20 := by omega
      simp [is_whitespace, blank] at white
    · rintro rfl
      simp at quoted
  obtain ⟨-, -, port, by_itself⟩ := parts.scheme_plain
  refine ⟨_, parts.browsed plain by_itself, ?_, r, listed, parts'.browsed plain by_itself⟩
  rcases parts.web with https | ⟨http, here⟩
  · exact .inl (congrArg String.ofList https)
  · refine .inr ⟨congrArg String.ofList http, here.imp (fun named => ?_) fun named => ?_⟩
    · simp only [origin_of, split_port_host named (by simp)]
      decide
    · simp only [origin_of, split_port_host named (by simp)]
      decide

section reference
open Reference

theorem return_to_stays_rp : ∃ origin, browser_origin "https://rp/welcome?a=1" = some origin ∧
    (origin.scheme = "https" ∨ origin.scheme = "http" ∧ (origin.host = "localhost" ∨ origin.host = "127.0.0.1")) ∧
    ∃ r ∈ rp.redirect_uris, browser_origin r = some origin :=
  return_to_stays rp "https://rp/welcome?a=1" (by decide +kernel)

end reference
end RustOp.Web.register
