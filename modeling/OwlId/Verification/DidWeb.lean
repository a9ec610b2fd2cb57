import Mathlib
import OwlId.Issuer.Issuance

/-! # The address of an issuer's DID document

The issuer writes its public URL as a `did:web` identifier, and the verifier, in another
service, makes of the identifier the address it fetches the DID document from.  The issuer
serves the document under its public URL at `/.well-known/did.json` only.

`didWeb_round_trip_iff` says for which public URLs the verifier asks at that address, and which
pairs of URLs share an identifier.
-/

namespace OwlId.Verification

open OwlId.Issuer

/-! ## The verifier's address -/

/-- `.replace("%3A", ":")`. -/
def decodeColons : List Char → List Char
  | '%' :: '3' :: 'A' :: rest => ':' :: decodeColons rest
  | c :: rest => c :: decodeColons rest
  | [] => []

/-- Plain HTTP for a development host, whatever the issuer's own scheme. -/
def schemeOf (authority : List Char) : String :=
  let host := authority.takeWhile (· ≠ ':')
  if host = "localhost".toList ∨ host = "127.0.0.1".toList then "http" else "https"

def didWebToUrl (did : String) : Option String :=
  (dropScheme "did:web:".toList did.toList).map fun rest =>
    let parts := rest.splitOn ':'
    let authority := decodeColons (parts.headD [])
    let segs := parts.tail
    String.ofList <| (schemeOf authority).toList ++ "://".toList ++ authority ++
      if segs = [] then "/.well-known/did.json".toList
      else '/' :: ['/'].intercalate segs ++ "/did.json".toList

/-! ## Public URLs -/

/-- A public URL as it is written: a scheme, a host with its port, the text after the next
`/` if there is more, and slashes at the end. -/
structure PublicUrl where
  https : Bool
  authority : List Char
  path : List Char
  slashes : Nat
  hosted : authority ≠ []
  undivided : '/' ∉ authority
  trimmed : path.getLast? ≠ some '/'

namespace PublicUrl

def scheme (u : PublicUrl) : String := if u.https then "https" else "http"

/-- Everything after the scheme but the slashes at the end. -/
def address (u : PublicUrl) : List Char :=
  u.authority ++ if u.path = [] then [] else '/' :: u.path

/-- The URL without the slashes at the end. -/
def base (u : PublicUrl) : List Char := u.scheme.toList ++ "://".toList ++ u.address

def text (u : PublicUrl) : String := String.ofList (u.base ++ List.replicate u.slashes '/')

/-- Where the issuer serves its DID document: one route under the public URL. -/
def servedAt (u : PublicUrl) : String :=
  String.ofList (trimEndSlashes u.text.toList ++ "/.well-known/did.json".toList)

end PublicUrl

/-! ## Texts -/

def encodeColons (authority : List Char) : List Char :=
  authority.flatMap fun c => if c = ':' then "%3A".toList else [c]

/-- One character written for another. -/
def rewriteChar (a b : Char) (s : List Char) : List Char := s.map fun c => if c = a then b else c

theorem trimEndSlashes_replicate {s : List Char} (trimmed : s.getLast? ≠ some '/') (n : Nat) :
    trimEndSlashes (s ++ List.replicate n '/') = s := by
  rw [trimEndSlashes, List.reverse_append, List.reverse_replicate,
    List.dropWhile_append_of_pos (by simp)]
  cases reversed : s.reverse with
  | nil => simpa using reversed.symm
  | cons c rest =>
    have last : s.getLast? = some c := by
      rw [List.getLast?_eq_head?_reverse, reversed]
      rfl
    have other : c ≠ '/' := by
      intro slash
      exact trimmed (by rw [last, slash])
    rw [List.dropWhile_cons_of_neg (by simpa using other), ← reversed, List.reverse_reverse]

theorem encodeColons_cons {c : Char} (plain : c ≠ ':') (s : List Char) :
    encodeColons (c :: s) = c :: encodeColons s := by
  rw [encodeColons, List.flatMap_cons, if_neg plain]
  rfl

theorem colon_notMem_encodeColons (s : List Char) : ':' ∉ encodeColons s := by
  intro member
  have ⟨c, _, inside⟩ := List.mem_flatMap.mp member
  by_cases colon : c = ':'
  · simp [colon] at inside
  · rw [if_neg colon, List.mem_singleton] at inside
    exact colon inside.symm

/-- A character that no escape begins with was there before. -/
theorem cons_of_encodeColons {c : Char} {s t : List Char} (encoded : encodeColons s = c :: t)
    (other : c ≠ '%') : ∃ rest, s = c :: rest ∧ t = encodeColons rest := by
  cases s with
  | nil => cases encoded
  | cons d rest =>
    by_cases colon : d = ':'
    · rw [colon] at encoded
      exact absurd (List.cons.inj encoded).1.symm other
    · rw [encodeColons_cons colon] at encoded
      have ⟨here, later⟩ := List.cons.inj encoded
      exact ⟨rest, by rw [here], later.symm⟩

theorem decodeColons_cons {c : Char} {s : List Char}
    (other : ∀ rest, c :: s ≠ '%' :: '3' :: 'A' :: rest) :
    decodeColons (c :: s) = c :: decodeColons s := by
  rw [decodeColons]
  intro rest percent follows
  exact other rest (by rw [percent, follows])

/-- Decoding finds the colons that were encoded, and the escapes that stood there before. -/
theorem decodeColons_encodeColons (s : List Char) :
    decodeColons (encodeColons s) = decodeColons s := by
  induction s using decodeColons.induct with
  | case1 rest ih =>
    show decodeColons ('%' :: '3' :: 'A' :: encodeColons rest) = _
    rw [decodeColons, ih, decodeColons]
  | case2 c rest other ih =>
    have noEscape : ∀ tail, c :: rest ≠ '%' :: '3' :: 'A' :: tail := by
      intro tail whole
      have ⟨here, later⟩ := List.cons.inj whole
      exact other tail here later
    rw [decodeColons_cons noEscape, ← ih]
    by_cases colon : c = ':'
    · rw [colon]
      show decodeColons ('%' :: '3' :: 'A' :: encodeColons rest) = _
      rw [decodeColons]
    · rw [encodeColons_cons colon]
      apply decodeColons_cons
      intro tail whole
      have ⟨here, later⟩ := List.cons.inj whole
      have ⟨more, three, others⟩ := cons_of_encodeColons later (by decide)
      have ⟨last, letter, _⟩ := cons_of_encodeColons others.symm (by decide)
      exact noEscape last (by rw [here, three, letter])
  | case3 => rfl

theorem decodeColons_length_le (s : List Char) : (decodeColons s).length ≤ s.length := by
  induction s using decodeColons.induct with
  | case1 rest ih =>
    rw [decodeColons]
    simp only [List.length_cons]
    omega
  | case2 c rest other ih =>
    rw [decodeColons_cons fun tail whole =>
      other tail (List.cons.inj whole).1 (List.cons.inj whole).2]
    simpa using ih
  | case3 => simp [decodeColons]

/-- Decoding leaves exactly the texts without an escape as they are. -/
theorem decodeColons_eq_self_iff {s : List Char} :
    decodeColons s = s ↔ ¬ "%3A".toList <:+: s := by
  induction s using decodeColons.induct with
  | case1 rest ih =>
    have shorter := decodeColons_length_le rest
    rw [decodeColons]
    constructor
    · intro same
      have lengths := congrArg List.length same
      simp only [List.length_cons] at lengths
      omega
    · intro absent
      exact absurd ⟨[], rest, rfl⟩ absent
  | case2 c rest other ih =>
    rw [decodeColons_cons fun tail whole =>
      other tail (List.cons.inj whole).1 (List.cons.inj whole).2, List.cons.injEq, ih]
    simp only [true_and]
    rw [List.infix_cons_iff, not_or]
    constructor
    · intro absent
      refine ⟨?_, absent⟩
      intro ⟨tail, whole⟩
      have ⟨here, later⟩ := List.cons.inj whole
      exact other tail here.symm later.symm
    · intro absent
      exact absent.2
  | case3 => simp [decodeColons]

/-- Splitting at one character and joining with another rewrites the one to the other. -/
theorem intercalate_splitOn_rewrite (a b : Char) (s : List Char) :
    [b].intercalate (s.splitOn a) = rewriteChar a b s := by
  induction s with
  | nil => rfl
  | cons c rest ih =>
    rw [List.splitOn_cons_eq_if_modifyHead, rewriteChar, List.map_cons]
    cases parts : rest.splitOn a with
    | nil => exact absurd parts (List.splitOn_ne_nil a rest)
    | cons first more =>
      rw [parts, rewriteChar] at ih
      by_cases here : c = a
      · rw [if_pos (by simpa using here), if_pos here, ← ih, List.intercalate_cons_cons]
        rfl
      · rw [if_neg (by simpa using here), if_neg here, ← ih, List.modifyHead_cons,
          List.intercalate_cons_cons_left]

theorem rewriteChar_back (a b : Char) (s : List Char) :
    rewriteChar b a (rewriteChar a b s) = rewriteChar b a s := by
  rw [rewriteChar, rewriteChar, rewriteChar, List.map_map]
  apply List.map_congr_left
  intro c _
  show (if (if c = a then b else c) = b then a else if c = a then b else c) = _
  by_cases first : c = a
  · rw [if_pos first, if_pos rfl]
    by_cases second : c = b
    · rw [if_pos second]
    · rw [if_neg second, first]
  · rw [if_neg first]

/-! ## The identifier of a public URL -/

namespace PublicUrl

variable (u v : PublicUrl)

theorem address_getLast : u.address.getLast? ≠ some '/' := by
  rw [address]
  by_cases plain : u.path = []
  · rw [if_pos plain, List.append_nil]
    intro last
    exact u.undivided (List.mem_of_getLast? last)
  · rw [if_neg plain, List.getLast?_append_of_ne_nil _ (by simp),
      List.getLast?_cons_of_ne_nil plain]
    exact u.trimmed

theorem address_ne_nil : u.address ≠ [] := by
  rw [address]
  intro empty
  exact u.hosted (List.append_eq_nil_iff.mp empty).1

theorem base_getLast : u.base.getLast? ≠ some '/' := by
  rw [base, List.getLast?_append_of_ne_nil _ u.address_ne_nil]
  exact u.address_getLast

theorem servedAt_eq : u.servedAt = String.ofList (u.base ++ "/.well-known/did.json".toList) := by
  rw [servedAt, text, String.toList_ofList, trimEndSlashes_replicate u.base_getLast]

/-- The issuer takes off the scheme, whichever it is. -/
theorem dropScheme_text :
    ((dropScheme "https://".toList u.text.toList).or
      (dropScheme "http://".toList u.text.toList)).getD u.text.toList =
        u.address ++ List.replicate u.slashes '/' := by
  have whole : u.text.toList =
      u.scheme.toList ++ ("://".toList ++ (u.address ++ List.replicate u.slashes '/')) := by
    rw [text, String.toList_ofList, base, List.append_assoc, List.append_assoc]
  rw [whole, scheme]
  cases u.https with
  | true => rfl
  | false => rfl

/-- What the identifier says of the path. -/
def pathText : List Char := if u.path = [] then [] else ':' :: rewriteChar '/' ':' u.path

theorem didWebId_text :
    didWebId u.text =
      String.ofList ("did:web:".toList ++ (encodeColons u.authority ++ u.pathText)) := by
  have slashless : ∀ c ∈ u.authority, decide (c ≠ '/') = true := by
    intro c member
    rw [decide_eq_true_eq]
    intro slash
    exact u.undivided (by rwa [← slash])
  rw [didWebId]
  simp only [u.dropScheme_text, trimEndSlashes_replicate u.address_getLast]
  rw [address, List.takeWhile_append_of_pos slashless, List.dropWhile_append_of_pos slashless,
    pathText]
  by_cases plain : u.path = []
  · rw [if_pos plain, if_pos plain]
    apply String.toList_inj.mp
    simp [encodeColons]
  · have separator : decide ('/' ≠ '/') = false := by decide
    rw [if_neg plain, if_neg plain, List.takeWhile_cons, separator, List.dropWhile_cons, separator]
    apply String.toList_inj.mp
    simp [encodeColons, rewriteChar, plain]

/-- Where the verifier asks for the document of a path: under it, as a path of the same host. -/
def askedPath : List Char :=
  if u.path = [] then "/.well-known/did.json".toList
  else '/' :: rewriteChar ':' '/' u.path ++ "/did.json".toList

theorem didWebToUrl_didWebId :
    didWebToUrl (didWebId u.text) =
      some (String.ofList ((schemeOf (decodeColons u.authority)).toList ++
        ("://".toList ++ (decodeColons u.authority ++ u.askedPath)))) := by
  have rest : dropScheme "did:web:".toList (didWebId u.text).toList =
      some (encodeColons u.authority ++ u.pathText) := by
    have whole : (didWebId u.text).toList =
        "did:web:".toList ++ (encodeColons u.authority ++ u.pathText) := by
      rw [didWebId_text]
      exact String.toList_ofList
    rw [whole]
    rfl
  have split' : (encodeColons u.authority ++ u.pathText).splitOn ':' =
      encodeColons u.authority ::
        if u.path = [] then [] else (rewriteChar '/' ':' u.path).splitOn ':' := by
    rw [pathText]
    by_cases plain : u.path = []
    · rw [if_pos plain, if_pos plain, List.append_nil]
      exact List.splitOn_eq_singleton (colon_notMem_encodeColons _)
    · rw [if_neg plain, if_neg plain]
      exact List.splitOn_append_cons_self_of_not_mem (colon_notMem_encodeColons _) _
  rw [didWebToUrl, rest, Option.map_some]
  simp only [split', List.headD_cons, List.tail_cons, decodeColons_encodeColons]
  rw [askedPath]
  by_cases plain : u.path = []
  · rw [if_pos plain, if_pos plain, if_pos rfl, List.append_assoc, List.append_assoc]
  · rw [if_neg plain, if_neg plain, if_neg (List.splitOn_ne_nil _ _),
      intercalate_splitOn_rewrite, rewriteChar_back, List.append_assoc, List.append_assoc]

/-! ## Which URLs are reached, and which are told apart -/

/-- The verifier asks where the document is served: there is no path, the host has no escape of
its own and the scheme is the one that is guessed from the host. -/
structure Reached : Prop where
  pathless : u.path = []
  unescaped : ¬ "%3A".toList <:+: u.authority
  guessed : schemeOf u.authority = u.scheme

/-- Two URLs with one identifier: their hosts are one once colons are escaped and their paths
once slashes are colons, whatever their schemes. -/
structure Confused : Prop where
  different : u.base ≠ v.base
  hosts : encodeColons u.authority = encodeColons v.authority
  paths : rewriteChar '/' ':' u.path = rewriteChar '/' ':' v.path

theorem schemeOf_length (authority : List Char) : (schemeOf authority).toList.length ≤ 5 := by
  rw [schemeOf]
  split <;> decide

theorem schemes_of_append {authority s t : List Char}
    (same : (schemeOf authority).toList ++ ("://".toList ++ s) =
      u.scheme.toList ++ ("://".toList ++ t)) :
    schemeOf authority = u.scheme ∧ "://".toList ++ s = "://".toList ++ t := by
  have asked : schemeOf authority = "http" ∨ schemeOf authority = "https" := by
    rw [schemeOf]
    split
    · exact .inl rfl
    · exact .inr rfl
  have served : u.scheme = "http" ∨ u.scheme = "https" := by
    rw [scheme]
    cases u.https with
    | true => exact .inr rfl
    | false => exact .inl rfl
  rcases asked with asked | asked
  · rcases served with served | served
    · rw [asked, served] at same
      exact ⟨by rw [asked, served], List.append_cancel_left same⟩
    · rw [asked, served] at same
      have fifth : some ':' = some 's' := congrArg (·[4]?) same
      cases fifth
  · rcases served with served | served
    · rw [asked, served] at same
      have fifth : some 's' = some ':' := congrArg (·[4]?) same
      cases fifth
    · rw [asked, served] at same
      exact ⟨by rw [asked, served], List.append_cancel_left same⟩

theorem reached_iff :
    didWebToUrl (didWebId u.text) = some u.servedAt ↔ u.Reached := by
  rw [didWebToUrl_didWebId, servedAt_eq, Option.some.injEq, String.ofList_inj, base, address,
    askedPath, List.append_assoc, List.append_assoc]
  have shorter := decodeColons_length_le u.authority
  by_cases plain : u.path = []
  · rw [if_pos plain, if_pos plain, List.append_nil]
    constructor
    · intro same
      have ⟨schemes, rest⟩ := u.schemes_of_append same
      have hosts := List.append_cancel_right (List.append_cancel_left rest)
      exact ⟨plain, decodeColons_eq_self_iff.mp hosts, by rw [← schemes, hosts]⟩
    · intro reached
      rw [decodeColons_eq_self_iff.mpr reached.unescaped, reached.guessed]
  · rw [if_neg plain, if_neg plain]
    constructor
    · intro same
      -- the issuer's address is longer by the directory the verifier leaves out
      have lengths := congrArg List.length same
      have asked := schemeOf_length (decodeColons u.authority)
      have served : 4 ≤ u.scheme.toList.length := by
        rw [scheme]
        cases u.https <;> decide
      have file : "/did.json".toList.length = 9 := rfl
      have wellKnown : "/.well-known/did.json".toList.length = 21 := rfl
      simp only [List.length_append, List.length_cons, rewriteChar, List.length_map, file,
        wellKnown] at lengths
      omega
    · intro reached
      exact absurd reached.pathless plain

theorem didWebId_eq_iff :
    didWebId u.text = didWebId v.text ↔
      encodeColons u.authority = encodeColons v.authority ∧
        rewriteChar '/' ':' u.path = rewriteChar '/' ':' v.path := by
  rw [didWebId_text, didWebId_text, String.ofList_inj, List.append_cancel_left_eq]
  have cut : ∀ w : PublicUrl, (encodeColons w.authority ++ w.pathText).takeWhile (· ≠ ':') =
      encodeColons w.authority := by
    intro w
    have plain : ∀ c ∈ encodeColons w.authority, decide (c ≠ ':') = true := by
      intro c member
      rw [decide_eq_true_eq]
      intro colon
      exact colon_notMem_encodeColons _ (by rwa [← colon])
    rw [List.takeWhile_append_of_pos plain, pathText]
    split <;> simp
  have drawn : ∀ w : PublicUrl, rewriteChar '/' ':' w.path = w.pathText.drop 1 := by
    intro w
    rw [pathText]
    split
    · next empty => rw [empty]; rfl
    · rfl
  have empty : ∀ w : PublicUrl, w.path = [] ↔ rewriteChar '/' ':' w.path = [] := by
    intro w
    rw [rewriteChar, List.map_eq_nil_iff]
  constructor
  · intro same
    have hosts : encodeColons u.authority = encodeColons v.authority := by
      rw [← cut u, ← cut v, same]
    rw [hosts, List.append_cancel_left_eq] at same
    exact ⟨hosts, by rw [drawn u, drawn v, same]⟩
  · intro ⟨hosts, paths⟩
    rw [hosts, pathText, pathText]
    simp only [empty, paths]

end PublicUrl

/-- A URL's identifier leads the verifier back exactly where it has no path and no escape and its
scheme is the one guessed, and two URLs have two identifiers unless they are confused. -/
theorem didWeb_round_trip_iff (u v : PublicUrl) :
    (didWebToUrl (didWebId u.text) = some u.servedAt ↔ u.Reached) ∧
      ((u.base ≠ v.base → didWebId u.text ≠ didWebId v.text) ↔ ¬ u.Confused v) := by
  constructor
  · exact u.reached_iff
  · rw [ne_eq, ne_eq, PublicUrl.didWebId_eq_iff]
    constructor
    · intro distinct confused
      exact distinct confused.different ⟨confused.hosts, confused.paths⟩
    · intro clear different same
      exact clear ⟨different, same.1, same.2⟩

/-- An issuer under a path of its host. -/
def issuerAtPath : PublicUrl where
  https := true
  authority := "example.com".toList
  path := "issuer".toList
  slashes := 0
  hosted := by decide
  undivided := by decide
  trimmed := by decide

/-- A development issuer, over plain HTTP or not. -/
def issuerAtLocalhost (https : Bool) : PublicUrl where
  https := https
  authority := "localhost:8001".toList
  path := []
  slashes := 0
  hosted := by decide
  undivided := by decide
  trimmed := by decide

/-- Under a path the verifier asks beside the document, and `https://localhost` is taken for
`http://localhost`. -/
theorem path_asked_elsewhere :
    didWebToUrl (didWebId issuerAtPath.text) ≠ some issuerAtPath.servedAt ∧
      (issuerAtLocalhost true).base ≠ (issuerAtLocalhost false).base ∧
      didWebId (issuerAtLocalhost true).text = didWebId (issuerAtLocalhost false).text := by
  refine ⟨?_, by decide, (PublicUrl.didWebId_eq_iff _ _).mpr ⟨rfl, rfl⟩⟩
  intro reached
  have pathless := ((PublicUrl.reached_iff issuerAtPath).mp reached).pathless
  cases pathless

end OwlId.Verification
