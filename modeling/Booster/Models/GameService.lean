import Booster.Theory.Percent
import Mathlib

/-!
# The URLs of a search

`MobyGamesService` builds the URL of a request as a text. The title of a search is
percent-encoded with `urlQueryAllowed`, the characters allowed in a query, among which are those that
separate its parameters: an `&` of the title stays and splits it (`fetchGamesByTitle_decodes_iff`). An `=` of the
title does no harm, as a part is split at its first. `searchGames` encodes the title in the same
way, and has lost the backslash of `\(baseURL)`, so that its URL begins with these letters
(`searchGames_not_decodes`).

Of Foundation the model takes that `addingPercentEncoding` leaves the allowed characters and escapes the bytes of
every other, and never fails on a text.

Mathlib is imported whole for `Int.toInt?_repr`, that a number written in decimal is read back, which no narrower module
of it brings in.
-/

namespace Booster

open Theory

namespace MobyGamesService

/-- `apiKey`. -/
def apiKey : String := "moby_8BhL8vYmC9v0PoamriU8vCw0MZ2"

/-- `baseURL`. -/
def baseURL : String := "https://api.mobygames.com/v1"

/-- `CharacterSet.urlQueryAllowed`. -/
def urlQueryAllowed (c : Char) : Bool := c.isAlphanum || "-._~!$&'()*+,;=:@/?".toList.contains c

/-- `addingPercentEncoding(withAllowedCharacters:)`. -/
def addingPercentEncoding (allowed : Char → Bool) (s : String) : Option String :=
  some (String.ofList (percentEncode allowed s.toList))

/-- The URL of `fetchGamesByTitle`. -/
def fetchGamesByTitle (title : String) : String :=
  baseURL ++ "/games?api_key=" ++ apiKey ++ "&title=" ++ (addingPercentEncoding urlQueryAllowed title).getD ""

/-- The URL of `searchGames`. -/
def searchGames (title : String) (platformId genresId : Int64) : String :=
  "(baseURL)/games?api_key=" ++ apiKey ++ "&title=" ++ (addingPercentEncoding urlQueryAllowed title).getD "" ++
    "&platform=" ++ platformId.toInt.repr ++ "&genre=" ++ genresId.toInt.repr

end MobyGamesService

/-- What a parameter is to be read as. -/
inductive ParameterValue where
  /-- A text. -/
  | text (s : String)
  /-- A number in decimal. -/
  | number (n : Int64)

/-- The value read is the one intended. -/
def ParameterValue.Reads : ParameterValue → List Char → Prop
  | .text s, cs => cs = s.toList
  | .number n, cs => (String.ofList cs).toInt? = some n.toInt

/-- The URL begins with `start`, and the parameters read from the rest are the intended ones, in order. -/
def DecodesTo (start : String) (intended : List (String × ParameterValue)) (url : String) : Prop :=
  ∃ query ps, url.toList = start.toList ++ query ∧ parameters query = some ps ∧
    List.Forall₂ (fun p q => p.1 = q.1.toList ∧ q.2.Reads p.2) ps intended

namespace MobyGamesService

/-- What `fetchGamesByTitle` is to ask for. -/
def byTitle (title : String) : List (String × ParameterValue) :=
  [("api_key", .text apiKey), ("title", .text title)]

/-- What `searchGames` is to ask for. -/
def bySearch (title : String) (platformId genresId : Int64) : List (String × ParameterValue) :=
  byTitle title ++ [("platform", .number platformId), ("genre", .number genresId)]

/-! ### The queries -/

/-- The query of both URLs up to the title's end. -/
def titleQuery (title : String) : List Char :=
  ("api_key".toList ++ '=' :: apiKey.toList) ++
    '&' :: ("title".toList ++ '=' :: percentEncode urlQueryAllowed title.toList)

/-- The query of `searchGames` after the title. -/
def idsQuery (platformId genresId : Int64) : List Char :=
  ("platform".toList ++ '=' :: platformId.toInt.repr.toList) ++
    '&' :: ("genre".toList ++ '=' :: genresId.toInt.repr.toList)

theorem getD_addingPercentEncoding (title : String) : (addingPercentEncoding urlQueryAllowed title).getD "" =
    String.ofList (percentEncode urlQueryAllowed title.toList) := rfl

theorem toList_fetchGamesByTitle (title : String) :
    (fetchGamesByTitle title).toList = (baseURL ++ "/games?").toList ++ titleQuery title := by
  have h₁ : "/games?api_key=".toList = "/games?".toList ++ ("api_key".toList ++ ['=']) := rfl
  have h₂ : "&title=".toList = '&' :: ("title".toList ++ ['=']) := rfl
  unfold fetchGamesByTitle titleQuery
  simp only [String.toList_append, String.toList_ofList, getD_addingPercentEncoding, h₁, h₂, List.append_assoc,
    List.cons_append, List.nil_append]

theorem toList_searchGames (title : String) (platformId genresId : Int64) :
    (searchGames title platformId genresId).toList =
      "(baseURL)/games?".toList ++ (titleQuery title ++ '&' :: idsQuery platformId genresId) := by
  have h₁ : "(baseURL)/games?api_key=".toList = "(baseURL)/games?".toList ++ ("api_key".toList ++ ['=']) := rfl
  have h₂ : "&title=".toList = '&' :: ("title".toList ++ ['=']) := rfl
  have h₃ : "&platform=".toList = '&' :: ("platform".toList ++ ['=']) := rfl
  have h₄ : "&genre=".toList = '&' :: ("genre".toList ++ ['=']) := rfl
  unfold searchGames titleQuery idsQuery
  simp only [String.toList_append, String.toList_ofList, getD_addingPercentEncoding, h₁, h₂, h₃, h₄,
    List.append_assoc, List.cons_append, List.nil_append]

/-- The `&` of a title stays. -/
theorem ampersand_mem_iff {title : String} :
    '&' ∈ percentEncode urlQueryAllowed title.toList ↔ '&' ∈ title.toList :=
  mem_percentEncode_iff rfl (by decide) title.toList

theorem notMem_repr {c : Char} (hd : c.isDigit = false) (hm : c ≠ '-') (i : ℤ) : c ∉ i.repr.toList := by
  have hn : ∀ n : ℕ, c ∉ n.repr.toList := by
    intro n hc
    rw [Nat.toList_repr] at hc
    rw [Nat.isDigit_of_mem_toDigits (by decide) (by decide) hc] at hd
    cases hd
  rw [Int.repr_eq_if]
  split
  · exact hn _
  · intro hc
    rw [String.toList_append, List.mem_append] at hc
    rcases hc with hc | hc
    · exact hm (List.mem_singleton.mp hc)
    · exact hn _ hc

/-- The key is read back. -/
theorem parameter_key : parameter ("api_key".toList ++ '=' :: apiKey.toList) = some ("api_key".toList, apiKey.toList) :=
  parameter_append (by decide) (by decide) (decodeText_of_notMem (by decide))

theorem ampersand_notMem_key : '&' ∉ "api_key".toList ++ '=' :: apiKey.toList := by decide

/-- The part of the title is read back, if no `&` splits it. -/
theorem parameter_title (title : String) :
    parameter ("title".toList ++ '=' :: percentEncode urlQueryAllowed title.toList) =
      some ("title".toList, title.toList) :=
  parameter_append (by decide) (by decide) (decodeText_percentEncode (by decide) title.toList)

theorem ampersand_notMem_title {title : String} (h : '&' ∉ title.toList) :
    '&' ∉ "title".toList ++ '=' :: percentEncode urlQueryAllowed title.toList := by
  have := mt ampersand_mem_iff.mp h
  simp [this]

/-- A title without `&` is read back. -/
theorem parameters_titleQuery {title : String} (h : '&' ∉ title.toList) :
    parameters (titleQuery title) =
      some [("api_key".toList, apiKey.toList), ("title".toList, title.toList)] := by
  unfold titleQuery
  rw [parameters_append ampersand_notMem_key, parameter_key, Option.bind_some,
    parameters_of_notMem (ampersand_notMem_title h), parameter_title]
  rfl

/-- A title without `&` is read back, and what follows it. -/
theorem parameters_titleQuery_append {title : String} (h : '&' ∉ title.toList) (query : List Char) :
    parameters (titleQuery title ++ '&' :: query) =
      (parameters query).map fun ps => ("api_key".toList, apiKey.toList) :: ("title".toList, title.toList) :: ps := by
  unfold titleQuery
  rw [List.append_assoc, List.cons_append, parameters_append ampersand_notMem_key, parameter_key, Option.bind_some,
    parameters_append (ampersand_notMem_title h), parameter_title, Option.bind_some, Option.map_map]
  rfl

/-- The part of an id is read back. -/
theorem parameter_id {name : List Char} (hn : '=' ∉ name) (hn' : '%' ∉ name) (n : Int64) :
    parameter (name ++ '=' :: n.toInt.repr.toList) = some (name, n.toInt.repr.toList) :=
  parameter_append hn hn' (decodeText_of_notMem (notMem_repr rfl (by decide) _))

theorem reads_repr (n : Int64) : (ParameterValue.number n).Reads n.toInt.repr.toList := by
  show (String.ofList n.toInt.repr.toList).toInt? = some n.toInt
  rw [String.ofList_toList, Int.toInt?_repr]

theorem ampersand_notMem_id {name : List Char} (h : '&' ∉ name) (n : Int64) :
    '&' ∉ name ++ '=' :: n.toInt.repr.toList := by
  have := notMem_repr (c := '&') rfl (by decide) n.toInt
  simp [h, this]

/-- The ids are read back. -/
theorem parameters_idsQuery (platformId genresId : Int64) :
    parameters (idsQuery platformId genresId) = some [("platform".toList, platformId.toInt.repr.toList),
      ("genre".toList, genresId.toInt.repr.toList)] := by
  unfold idsQuery
  rw [parameters_append (ampersand_notMem_id (by decide) platformId), parameter_id (by decide) (by decide),
    Option.bind_some, parameters_of_notMem (ampersand_notMem_id (by decide) genresId),
    parameter_id (by decide) (by decide)]
  rfl

/-- An `&` in the title is one more than there is to be. -/
theorem two_le_count_titleQuery {title : String} (h : '&' ∈ title.toList) : 2 ≤ (titleQuery title).count '&' := by
  have hpos := List.count_pos_iff.mpr (ampersand_mem_iff.mpr h)
  have htitle : ("title".toList ++ '=' :: percentEncode urlQueryAllowed title.toList).count '&' =
      "title".toList.count '&' + (percentEncode urlQueryAllowed title.toList).count '&' := by
    rw [List.count_append, List.count_cons_of_ne (show '=' ≠ '&' by decide)]
  unfold titleQuery
  rw [List.count_append, List.count_cons_self, htitle]
  omega

end MobyGamesService

/-- The query is what follows the start of a URL that begins with it. -/
theorem decodesTo_iff {start url : String} {intended : List (String × ParameterValue)} {query : List Char}
    (h : url.toList = start.toList ++ query) : DecodesTo start intended url ↔
      ∃ ps, parameters query = some ps ∧
        List.Forall₂ (fun p q => p.1 = q.1.toList ∧ q.2.Reads p.2) ps intended := by
  constructor
  · rintro ⟨query', ps, h', hp, hr⟩
    obtain rfl := List.append_cancel_left (h.symm.trans h')
    exact ⟨ps, hp, hr⟩
  · rintro ⟨ps, hp, hr⟩
    exact ⟨query, ps, h, hp, hr⟩

namespace MobyGamesService

/-- **A search by title decodes back exactly when the title has no `&`.** -/
theorem fetchGamesByTitle_decodes_iff {title : String} :
    DecodesTo (baseURL ++ "/games?") (byTitle title) (fetchGamesByTitle title) ↔ '&' ∉ title.toList := by
  rw [decodesTo_iff (toList_fetchGamesByTitle title)]
  constructor
  · rintro ⟨ps, hp, hr⟩ hm
    have hlen := length_parameters hp
    have hcount := two_le_count_titleQuery hm
    rw [hr.length_eq] at hlen
    simp only [byTitle, List.length_cons, List.length_nil] at hlen
    omega
  · intro h
    exact ⟨_, parameters_titleQuery h, .cons ⟨rfl, rfl⟩ (.cons ⟨rfl, rfl⟩ .nil)⟩

/-- The query of `searchGames` decodes back exactly when the title has no `&`. -/
theorem searchGames_decodes_iff {title : String} {platformId genresId : Int64} :
    DecodesTo "(baseURL)/games?" (bySearch title platformId genresId) (searchGames title platformId genresId) ↔
      '&' ∉ title.toList := by
  rw [decodesTo_iff (toList_searchGames title platformId genresId)]
  constructor
  · rintro ⟨ps, hp, hr⟩ hm
    have hlen := length_parameters hp
    have hids := length_parameters (parameters_idsQuery platformId genresId)
    have hcount := two_le_count_titleQuery hm
    rw [hr.length_eq, List.count_append, List.count_cons_self] at hlen
    simp only [bySearch, byTitle, List.length_append, List.length_cons, List.length_nil] at hlen hids
    omega
  · intro h
    rw [parameters_titleQuery_append h, parameters_idsQuery]
    refine ⟨_, rfl, ?_⟩
    exact .cons ⟨rfl, rfl⟩ (.cons ⟨rfl, rfl⟩ (.cons ⟨rfl, reads_repr platformId⟩
      (.cons ⟨rfl, reads_repr genresId⟩ .nil)))

/-- The URL of `searchGames` does not begin as it is to. -/
theorem searchGames_not_decodes (title : String) (platformId genresId : Int64)
    (intended : List (String × ParameterValue)) :
    ¬DecodesTo (baseURL ++ "/games?") intended (searchGames title platformId genresId) := by
  rintro ⟨query, ps, h, -⟩
  rw [toList_searchGames] at h
  have hhead := congrArg List.head? h
  cases hhead

/-- The `&` of a title splits it: the URL has three parameters in place of two, the last of them named `b`. -/
theorem splitTitle_not_decodes : ¬DecodesTo (baseURL ++ "/games?") (byTitle "a&b=c") (fetchGamesByTitle "a&b=c") ∧
    ¬DecodesTo (baseURL ++ "/games?") (bySearch "a&b=c" 1 2) (searchGames "a&b=c" 1 2) := by
  refine ⟨?_, searchGames_not_decodes "a&b=c" 1 2 _⟩
  rw [fetchGamesByTitle_decodes_iff]
  decide

/-- **When the URLs of a search decode back.** That of a search by title does exactly when the title has no `&`.
That of `searchGames` never does, as it does not begin with the base URL; what follows the letters it begins with
decodes back exactly when the title has no `&`. -/
theorem searchURLs_decode_iff (title : String) (platformId genresId : Int64) :
    (DecodesTo (baseURL ++ "/games?") (byTitle title) (fetchGamesByTitle title) ↔ '&' ∉ title.toList) ∧
    ¬DecodesTo (baseURL ++ "/games?") (bySearch title platformId genresId) (searchGames title platformId genresId) ∧
    (DecodesTo "(baseURL)/games?" (bySearch title platformId genresId) (searchGames title platformId genresId) ↔
      '&' ∉ title.toList) :=
  ⟨fetchGamesByTitle_decodes_iff, searchGames_not_decodes title platformId genresId _, searchGames_decodes_iff⟩

end MobyGamesService

end Booster
