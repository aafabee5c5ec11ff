import WhyRouted.JsText

/-! # Who may call a tool

`src/mcp/auth.ts`: the bearer token of the MCP endpoint, the loopback test on the bind host,
the policy that keeps the action tools off an open bind, and the lines of the startup banner.
The hash of a token is a parameter: nothing here depends on which one it is. -/

namespace WhyRouted

/-! ### Hosts -/

/-- `LOOPBACK_HOSTS`: the names of this machine only. -/
def loopbackHosts : List String := ["127.0.0.1", "::1", "localhost"]

/-- One of the loopback names, trimmed and in any case. -/
def isLoopbackHost (host : String) : Bool := loopbackHosts.contains (jsLower (jsTrim host))

/-! ### The bearer header -/

/-- The characters `.` does not match in a regular expression. -/
def isLineTerminator (c : Char) : Bool := [0x0A, 0x0D, 0x2028, 0x2029].contains c.toNat

/-- The group of `/^bearer (.+)$/i` in a header. -/
def bearerCredentials (header : String) : Option String :=
  let scheme := header.toList.take 7
  let rest := header.toList.drop 7
  if scheme.map asciiLower = "bearer ".toList ∧ rest ≠ [] ∧ !rest.any isLineTerminator then
    some (String.ofList rest)
  else none

/-- Whether an `Authorization` header carries `token`. -/
def bearerMatches {δ : Type} [DecidableEq δ] (sha256 : String → δ) (header : Option String)
    (token : String) : Bool :=
  match header with
  | none => false
  | some header =>
      if token = "" then false
      else match bearerCredentials header with
        | none => false
        | some credentials => decide (sha256 credentials = sha256 token)

/-- The header is the word `bearer` in any case, one space, and exactly the token. -/
def Bears (token : String) (header : Option String) : Prop :=
  ∃ scheme, jsLower scheme = "bearer" ∧ header = some (scheme ++ " " ++ token)

/-! ### What the action tools require -/

/-- Whether the action tools may be registered for this bind and token, or why not. -/
def actionToolsAllowed (host : String) (token : Option String) : Except String Unit :=
  if token.any (· ≠ "") then .ok ()
  else if isLoopbackHost host then .ok ()
  else .error ("action tools are not registered: the MCP server is bound to " ++ host ++
    " with no token. Set WR_MCP_TOKEN (at least 16 characters) to enable them.")

/-- The auth lines of the startup banner: whether a token is required, never what it is. -/
def authBanner (host : String) (token : Option String) : List String :=
  if token.any (· ≠ "") then
    if isLoopbackHost host then ["auth: token required"]
    else ["auth: token required", "plain http: token is readable on the network"]
  else if isLoopbackHost host then ["auth: none (loopback only)"]
  else ["auth: none, read tools only (action tools are not registered)"]

/-! ### What a matching header says -/

theorem asciiLower_eq_space_iff {c : Char} : asciiLower c = ' ' ↔ c = ' ' := by
  unfold asciiLower
  split_ifs with hupper
  · have hlow : 'A'.toNat ≤ c.toNat := hupper.1
    have hhigh : c.toNat ≤ 'Z'.toNat := hupper.2
    have hA : 'A'.toNat = 65 := rfl
    have hZ : 'Z'.toNat = 90 := rfl
    have hvalid : (c.toNat + 32).isValidChar := Or.inl (by omega)
    have hcode : (Char.ofNat (c.toNat + 32)).toNat = c.toNat + 32 := by
      rw [Char.ofNat, dif_pos hvalid]
      rfl
    have hspace : ' '.toNat = 32 := rfl
    constructor
    · intro h
      rw [h] at hcode
      omega
    · rintro rfl
      omega
  · rfl

theorem bearerCredentials_eq_some_iff {header credentials : String} :
    bearerCredentials header = some credentials ↔
      Bears credentials (some header) ∧ credentials ≠ "" ∧
        credentials.toList.any isLineTerminator = false := by
  have hbearer : "bearer ".toList = "bearer".toList ++ [' '] := by decide
  simp only [bearerCredentials]
  constructor
  · intro h
    split_ifs at h with hmatch
    obtain ⟨hscheme, hrest, hline⟩ := hmatch
    obtain rfl := Option.some.inj h
    rw [hbearer] at hscheme
    obtain ⟨word, space, htake, hword, hspace⟩ := List.map_eq_append_iff.mp hscheme
    obtain ⟨c, rfl, hc⟩ := List.map_eq_singleton_iff.mp hspace
    obtain rfl := asciiLower_eq_space_iff.mp hc
    refine ⟨⟨String.ofList word, ?_, ?_⟩, ?_, ?_⟩
    · rw [jsLower, String.toList_ofList, hword, String.ofList_toList]
    · have hheader := List.take_append_drop 7 header.toList
      rw [htake] at hheader
      rw [Option.some.injEq, ← String.toList_inj]
      simpa using hheader.symm
    · intro hempty
      apply hrest
      simpa using congrArg String.toList hempty
    · simpa using hline
  · rintro ⟨⟨scheme, hscheme, hheader⟩, hne, hline⟩
    obtain rfl := Option.some.inj hheader
    have hword : scheme.toList.map asciiLower = "bearer".toList := by
      rw [← hscheme, jsLower, String.toList_ofList]
    have hlength : (scheme.toList ++ [' ']).length = 7 := by
      have h := congrArg List.length hword
      rw [List.length_map] at h
      rw [List.length_append, h]
      rfl
    have htoList : (scheme ++ " " ++ credentials).toList =
        (scheme.toList ++ [' ']) ++ credentials.toList := by
      simp
    rw [htoList, List.take_left' hlength, List.drop_left' hlength, if_pos, String.ofList_toList]
    refine ⟨?_, ?_, ?_⟩
    · rw [List.map_append, hword, hbearer]
      rfl
    · intro hnil
      apply hne
      exact String.toList_inj.mp (by rw [hnil]; rfl)
    · rw [hline]
      rfl

section hash

variable {δ : Type} [DecidableEq δ] {sha256 : String → δ}

/-- What a request presents does not collide with the token. -/
def NoCollision (sha256 : String → δ) (token : String) (header : Option String) : Prop :=
  ∀ text ∈ header, ∀ credentials ∈ bearerCredentials text,
    sha256 credentials = sha256 token → credentials = token

theorem bears_of_bearerMatches {header : Option String} {token : String}
    (hsha : NoCollision sha256 token header) (h : bearerMatches sha256 header token = true) :
    Bears token header := by
  cases header with
  | none => simp [bearerMatches] at h
  | some text =>
      simp only [bearerMatches] at h
      split_ifs at h with hempty
      cases hc : bearerCredentials text with
      | none => simp [hc] at h
      | some credentials =>
          have hhash : sha256 credentials = sha256 token := by simpa [hc] using h
          have htoken := hsha text rfl credentials hc hhash
          rw [← htoken]
          exact (bearerCredentials_eq_some_iff.mp hc).1

end hash

theorem loopback_of_actionToolsAllowed {host : String}
    (h : actionToolsAllowed host none = .ok ()) : isLoopbackHost host = true := by
  simp only [actionToolsAllowed] at h
  split_ifs at h with htoken hhost
  · simp at htoken
  · exact hhost

end WhyRouted
