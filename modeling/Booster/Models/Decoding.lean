import Booster.Theory.Json
import Booster.Models.Game

/-!
# Decoding the responses

The `init(from:)` of each model, as Swift synthesises it from its properties and `CodingKeys`: the properties
in the order they are declared, those of an optional type by `decodeIfPresent`. Foundation's reading of
a number as an `Int` or a `Double` is the parameter `numbers`. A fetch hands its completion what the
response decodes to, or the first error (`responseDecodable`).

What a decoded value says is exactly what the document says, key by key (`Game.In` and its
like): unknown members and the order of members do not matter. A response is decoded whole or not at
all (`success_iff`), the first game refused is its error (`fetchGames_failure_iff`), and every error
describes the document (`failure_describes`).
-/

namespace Booster

open Theory

variable {ν : Type}

variable (numbers : Numbers ν)

/-- `AlternateTitles.init(from:)`. -/
def AlternateTitles.initFrom (container : KeyedContainer ν) : Except DecodingError AlternateTitles := do
  let description ← container.decodeIfPresent "description" decodeString
  let title ← container.decodeIfPresent "title" decodeString
  return { description := description, title := title }

/-- `Genre.init(from:)`. -/
def Genre.initFrom (container : KeyedContainer ν) : Except DecodingError Genre := do
  let genreCategory ← container.decode "genre_category" decodeString
  let genreCategoryId ← container.decode "genre_category_id" numbers.decodeInt
  let genreId ← container.decode "genre_id" numbers.decodeInt
  let genreName ← container.decode "genre_name" decodeString
  return { genreCategory := genreCategory, genreCategoryId := genreCategoryId, genreId := genreId
           genreName := genreName }

/-- `Platform.init(from:)`. -/
def Platform.initFrom (container : KeyedContainer ν) : Except DecodingError Platform := do
  let firstReleaseDate ← container.decode "first_release_date" decodeString
  let platformId ← container.decode "platform_id" numbers.decodeInt
  let platformName ← container.decode "platform_name" decodeString
  return { firstReleaseDate := firstReleaseDate, platformId := platformId, platformName := platformName }

/-- `Cover.init(from:)`. -/
def Cover.initFrom (container : KeyedContainer ν) : Except DecodingError Cover := do
  let height ← container.decode "height" numbers.decodeInt
  let imageURL ← container.decode "image" decodeString
  let platforms ← container.decode "platforms" (decodeArray decodeString)
  let thumbnailImageURL ← container.decode "thumbnail_image" decodeString
  let width ← container.decode "width" numbers.decodeInt
  return { height := height, imageURL := imageURL, platforms := platforms, thumbnailImageURL := thumbnailImageURL
           width := width }

/-- `Screenshot.init(from:)`. -/
def Screenshot.initFrom (container : KeyedContainer ν) : Except DecodingError Screenshot := do
  let caption ← container.decode "caption" decodeString
  let height ← container.decode "height" numbers.decodeInt
  let imageURL ← container.decode "image" decodeString
  let thumbnailImageURL ← container.decode "thumbnail_image" decodeString
  let width ← container.decode "width" numbers.decodeInt
  return { caption := caption, height := height, imageURL := imageURL, thumbnailImageURL := thumbnailImageURL
           width := width }

/-- `Game.init(from:)`. -/
def Game.initFrom (container : KeyedContainer ν) : Except DecodingError Game := do
  let alternateTitles ← container.decodeIfPresent "alternate_titles"
    (decodeArray (decodeObject AlternateTitles.initFrom))
  let description ← container.decodeIfPresent "description" decodeString
  let gameId ← container.decodeIfPresent "game_id" numbers.decodeInt
  let genres ← container.decodeIfPresent "genres" (decodeArray (decodeObject (Genre.initFrom numbers)))
  let mobyScore ← container.decodeIfPresent "moby_score" numbers.decodeDouble
  let mobyURL ← container.decodeIfPresent "moby_url" decodeString
  let numVotes ← container.decodeIfPresent "num_votes" numbers.decodeInt
  let officialURL ← container.decodeIfPresent "official_url" decodeString
  let platforms ← container.decodeIfPresent "platforms" (decodeArray (decodeObject (Platform.initFrom numbers)))
  let sampleCover ← container.decodeIfPresent "sample_cover" (decodeObject (Cover.initFrom numbers))
  let sampleScreenshots ← container.decodeIfPresent "sample_screenshots"
    (decodeArray (decodeObject (Screenshot.initFrom numbers)))
  let title ← container.decodeIfPresent "title" decodeString
  return { alternateTitles := alternateTitles, description := description, gameId := gameId, genres := genres
           mobyScore := mobyScore, mobyURL := mobyURL, numVotes := numVotes, officialURL := officialURL
           platforms := platforms, sampleCover := sampleCover, sampleScreenshots := sampleScreenshots
           title := title }

namespace MobyGamesService

/-- `GameResponse.init(from:)`: its `games`. -/
def GameResponse.initFrom (container : KeyedContainer ν) : Except DecodingError (List Game) :=
  container.decode "games" (decodeArray (decodeObject (Game.initFrom numbers)))

/-- `GenresResponse.init(from:)`: its `genres`. -/
def GenresResponse.initFrom (container : KeyedContainer ν) : Except DecodingError (List Genre) :=
  container.decode "genres" (decodeArray (decodeObject (Genre.initFrom numbers)))

/-- `PlatformResponse.init(from:)`: its `platform`. -/
def PlatformResponse.initFrom (container : KeyedContainer ν) : Except DecodingError (List Platform) :=
  container.decode "platform" (decodeArray (decodeObject (Platform.initFrom numbers)))

/-- `GameIdRespone.init(from:)`: its `games`. -/
def GameIdRespone.initFrom (container : KeyedContainer ν) : Except DecodingError (List Int64) :=
  container.decode "games" (decodeArray numbers.decodeInt)

/-- Why a fetch fails. -/
inductive FetchError (ε : Type) where
  /-- There is no document: the request failed, or the response is not JSON. -/
  | request (error : ε)
  /-- The document does not decode. -/
  | decoding (error : DecodingError)

variable {ε α : Type}

/-- `AF.request(url).responseDecodable(of:)`: what the fetch calls its completion with. -/
def responseDecodable (initFrom : KeyedContainer ν → Except DecodingError α) (response : Except ε (Json ν)) :
    Except (FetchError ε) α :=
  match response with
  | .error error => .error (.request error)
  | .ok v => (decodeObject initFrom [] v).mapError .decoding

/-! What each fetch calls its completion with. -/

namespace Completion

/-- `fetchPlatforms`. -/
def fetchPlatforms : Except ε (Json ν) → Except (FetchError ε) (List Platform) :=
  responseDecodable (PlatformResponse.initFrom numbers)

/-- `fetchGenres`. -/
def fetchGenres : Except ε (Json ν) → Except (FetchError ε) (List Genre) :=
  responseDecodable (GenresResponse.initFrom numbers)

/-- `fetchGames`. -/
def fetchGames : Except ε (Json ν) → Except (FetchError ε) (List Game) :=
  responseDecodable (GameResponse.initFrom numbers)

/-- `fetchGamesByTitle`. -/
def fetchGamesByTitle : Except ε (Json ν) → Except (FetchError ε) (List Game) :=
  responseDecodable (GameResponse.initFrom numbers)

/-- `searchGames`. -/
def searchGames : Except ε (Json ν) → Except (FetchError ε) (List Game) :=
  responseDecodable (GameResponse.initFrom numbers)

/-- `fetchGameById`. -/
def fetchGameById : Except ε (Json ν) → Except (FetchError ε) Game := responseDecodable (Game.initFrom numbers)

/-- `fetchGameId`. -/
def fetchGameId : Except ε (Json ν) → Except (FetchError ε) (List Int64) :=
  responseDecodable (GameIdRespone.initFrom numbers)

end Completion

end MobyGamesService

/-! ### What a document says -/

/-- The members say what `a` is. -/
structure AlternateTitles.In (members : List (String × Json ν)) (a : AlternateTitles) : Prop where
  description : MayHave IsString "description" members a.description
  title : MayHave IsString "title" members a.title

/-- The members say what `a` is. -/
structure Genre.In (members : List (String × Json ν)) (a : Genre) : Prop where
  genreCategory : Has IsString "genre_category" members a.genreCategory
  genreCategoryId : Has (IsNumber numbers.int) "genre_category_id" members a.genreCategoryId
  genreId : Has (IsNumber numbers.int) "genre_id" members a.genreId
  genreName : Has IsString "genre_name" members a.genreName

/-- The members say what `a` is. -/
structure Platform.In (members : List (String × Json ν)) (a : Platform) : Prop where
  firstReleaseDate : Has IsString "first_release_date" members a.firstReleaseDate
  platformId : Has (IsNumber numbers.int) "platform_id" members a.platformId
  platformName : Has IsString "platform_name" members a.platformName

/-- The members say what `a` is. -/
structure Cover.In (members : List (String × Json ν)) (a : Cover) : Prop where
  height : Has (IsNumber numbers.int) "height" members a.height
  imageURL : Has IsString "image" members a.imageURL
  platforms : Has (IsArray IsString) "platforms" members a.platforms
  thumbnailImageURL : Has IsString "thumbnail_image" members a.thumbnailImageURL
  width : Has (IsNumber numbers.int) "width" members a.width

/-- The members say what `a` is. -/
structure Screenshot.In (members : List (String × Json ν)) (a : Screenshot) : Prop where
  caption : Has IsString "caption" members a.caption
  height : Has (IsNumber numbers.int) "height" members a.height
  imageURL : Has IsString "image" members a.imageURL
  thumbnailImageURL : Has IsString "thumbnail_image" members a.thumbnailImageURL
  width : Has (IsNumber numbers.int) "width" members a.width

/-- The members say what `a` is. -/
structure Game.In (members : List (String × Json ν)) (a : Game) : Prop where
  alternateTitles : MayHave (IsArray (IsObject AlternateTitles.In)) "alternate_titles" members a.alternateTitles
  description : MayHave IsString "description" members a.description
  gameId : MayHave (IsNumber numbers.int) "game_id" members a.gameId
  genres : MayHave (IsArray (IsObject (Genre.In numbers))) "genres" members a.genres
  mobyScore : MayHave (IsNumber numbers.double) "moby_score" members a.mobyScore
  mobyURL : MayHave IsString "moby_url" members a.mobyURL
  numVotes : MayHave (IsNumber numbers.int) "num_votes" members a.numVotes
  officialURL : MayHave IsString "official_url" members a.officialURL
  platforms : MayHave (IsArray (IsObject (Platform.In numbers))) "platforms" members a.platforms
  sampleCover : MayHave (IsObject (Cover.In numbers)) "sample_cover" members a.sampleCover
  sampleScreenshots : MayHave (IsArray (IsObject (Screenshot.In numbers))) "sample_screenshots" members
    a.sampleScreenshots
  title : MayHave IsString "title" members a.title

/-! ### What is decoded is what the document says -/

theorem AlternateTitles.initFrom_eq_ok_iff (c : KeyedContainer ν) (a : AlternateTitles) :
    AlternateTitles.initFrom c = .ok a ↔ AlternateTitles.In c.members a := by
  have hs := exact_decodeString (ν := ν)
  constructor
  · intro h
    obtain ⟨description, h₁, h⟩ := bind_eq_ok_iff.mp h
    obtain ⟨title, h₂, h⟩ := bind_eq_ok_iff.mp h
    cases h
    exact ⟨(c.decodeIfPresent_eq_ok_iff hs).mp h₁, (c.decodeIfPresent_eq_ok_iff hs).mp h₂⟩
  · rintro ⟨h₁, h₂⟩
    exact bind_eq_ok_iff.mpr ⟨_, (c.decodeIfPresent_eq_ok_iff hs).mpr h₁,
      bind_eq_ok_iff.mpr ⟨_, (c.decodeIfPresent_eq_ok_iff hs).mpr h₂, rfl⟩⟩

theorem Genre.initFrom_eq_ok_iff (c : KeyedContainer ν) (a : Genre) :
    Genre.initFrom numbers c = .ok a ↔ Genre.In numbers c.members a := by
  have hs := exact_decodeString (ν := ν)
  have hi := exact_decodeInt numbers
  constructor
  · intro h
    obtain ⟨genreCategory, h₁, h⟩ := bind_eq_ok_iff.mp h
    obtain ⟨genreCategoryId, h₂, h⟩ := bind_eq_ok_iff.mp h
    obtain ⟨genreId, h₃, h⟩ := bind_eq_ok_iff.mp h
    obtain ⟨genreName, h₄, h⟩ := bind_eq_ok_iff.mp h
    cases h
    exact {
      genreCategory := (c.decode_eq_ok_iff hs).mp h₁
      genreCategoryId := (c.decode_eq_ok_iff hi).mp h₂
      genreId := (c.decode_eq_ok_iff hi).mp h₃
      genreName := (c.decode_eq_ok_iff hs).mp h₄ }
  · intro h
    refine bind_eq_ok_iff.mpr ⟨_, (c.decode_eq_ok_iff hs).mpr h.genreCategory, ?_⟩
    refine bind_eq_ok_iff.mpr ⟨_, (c.decode_eq_ok_iff hi).mpr h.genreCategoryId, ?_⟩
    refine bind_eq_ok_iff.mpr ⟨_, (c.decode_eq_ok_iff hi).mpr h.genreId, ?_⟩
    refine bind_eq_ok_iff.mpr ⟨_, (c.decode_eq_ok_iff hs).mpr h.genreName, ?_⟩
    rfl

theorem Platform.initFrom_eq_ok_iff (c : KeyedContainer ν) (a : Platform) :
    Platform.initFrom numbers c = .ok a ↔ Platform.In numbers c.members a := by
  have hs := exact_decodeString (ν := ν)
  have hi := exact_decodeInt numbers
  constructor
  · intro h
    obtain ⟨firstReleaseDate, h₁, h⟩ := bind_eq_ok_iff.mp h
    obtain ⟨platformId, h₂, h⟩ := bind_eq_ok_iff.mp h
    obtain ⟨platformName, h₃, h⟩ := bind_eq_ok_iff.mp h
    cases h
    exact {
      firstReleaseDate := (c.decode_eq_ok_iff hs).mp h₁
      platformId := (c.decode_eq_ok_iff hi).mp h₂
      platformName := (c.decode_eq_ok_iff hs).mp h₃ }
  · intro h
    refine bind_eq_ok_iff.mpr ⟨_, (c.decode_eq_ok_iff hs).mpr h.firstReleaseDate, ?_⟩
    refine bind_eq_ok_iff.mpr ⟨_, (c.decode_eq_ok_iff hi).mpr h.platformId, ?_⟩
    refine bind_eq_ok_iff.mpr ⟨_, (c.decode_eq_ok_iff hs).mpr h.platformName, ?_⟩
    rfl

theorem Cover.initFrom_eq_ok_iff (c : KeyedContainer ν) (a : Cover) :
    Cover.initFrom numbers c = .ok a ↔ Cover.In numbers c.members a := by
  have hi := exact_decodeInt numbers
  have hs := exact_decodeString (ν := ν)
  have ha := exact_decodeArray (exact_decodeString (ν := ν))
  constructor
  · intro h
    obtain ⟨height, h₁, h⟩ := bind_eq_ok_iff.mp h
    obtain ⟨imageURL, h₂, h⟩ := bind_eq_ok_iff.mp h
    obtain ⟨platforms, h₃, h⟩ := bind_eq_ok_iff.mp h
    obtain ⟨thumbnailImageURL, h₄, h⟩ := bind_eq_ok_iff.mp h
    obtain ⟨width, h₅, h⟩ := bind_eq_ok_iff.mp h
    cases h
    exact {
      height := (c.decode_eq_ok_iff hi).mp h₁
      imageURL := (c.decode_eq_ok_iff hs).mp h₂
      platforms := (c.decode_eq_ok_iff ha).mp h₃
      thumbnailImageURL := (c.decode_eq_ok_iff hs).mp h₄
      width := (c.decode_eq_ok_iff hi).mp h₅ }
  · intro h
    refine bind_eq_ok_iff.mpr ⟨_, (c.decode_eq_ok_iff hi).mpr h.height, ?_⟩
    refine bind_eq_ok_iff.mpr ⟨_, (c.decode_eq_ok_iff hs).mpr h.imageURL, ?_⟩
    refine bind_eq_ok_iff.mpr ⟨_, (c.decode_eq_ok_iff ha).mpr h.platforms, ?_⟩
    refine bind_eq_ok_iff.mpr ⟨_, (c.decode_eq_ok_iff hs).mpr h.thumbnailImageURL, ?_⟩
    refine bind_eq_ok_iff.mpr ⟨_, (c.decode_eq_ok_iff hi).mpr h.width, ?_⟩
    rfl

theorem Screenshot.initFrom_eq_ok_iff (c : KeyedContainer ν) (a : Screenshot) :
    Screenshot.initFrom numbers c = .ok a ↔ Screenshot.In numbers c.members a := by
  have hs := exact_decodeString (ν := ν)
  have hi := exact_decodeInt numbers
  constructor
  · intro h
    obtain ⟨caption, h₁, h⟩ := bind_eq_ok_iff.mp h
    obtain ⟨height, h₂, h⟩ := bind_eq_ok_iff.mp h
    obtain ⟨imageURL, h₃, h⟩ := bind_eq_ok_iff.mp h
    obtain ⟨thumbnailImageURL, h₄, h⟩ := bind_eq_ok_iff.mp h
    obtain ⟨width, h₅, h⟩ := bind_eq_ok_iff.mp h
    cases h
    exact {
      caption := (c.decode_eq_ok_iff hs).mp h₁
      height := (c.decode_eq_ok_iff hi).mp h₂
      imageURL := (c.decode_eq_ok_iff hs).mp h₃
      thumbnailImageURL := (c.decode_eq_ok_iff hs).mp h₄
      width := (c.decode_eq_ok_iff hi).mp h₅ }
  · intro h
    refine bind_eq_ok_iff.mpr ⟨_, (c.decode_eq_ok_iff hs).mpr h.caption, ?_⟩
    refine bind_eq_ok_iff.mpr ⟨_, (c.decode_eq_ok_iff hi).mpr h.height, ?_⟩
    refine bind_eq_ok_iff.mpr ⟨_, (c.decode_eq_ok_iff hs).mpr h.imageURL, ?_⟩
    refine bind_eq_ok_iff.mpr ⟨_, (c.decode_eq_ok_iff hs).mpr h.thumbnailImageURL, ?_⟩
    refine bind_eq_ok_iff.mpr ⟨_, (c.decode_eq_ok_iff hi).mpr h.width, ?_⟩
    rfl

theorem Game.initFrom_eq_ok_iff (c : KeyedContainer ν) (a : Game) :
    Game.initFrom numbers c = .ok a ↔ Game.In numbers c.members a := by
  have ht := exact_decodeArray (exact_decodeObject (AlternateTitles.initFrom_eq_ok_iff (ν := ν)))
  have hs := exact_decodeString (ν := ν)
  have hi := exact_decodeInt numbers
  have hg := exact_decodeArray (exact_decodeObject (Genre.initFrom_eq_ok_iff numbers))
  have hd := exact_decodeDouble numbers
  have hp := exact_decodeArray (exact_decodeObject (Platform.initFrom_eq_ok_iff numbers))
  have hc := exact_decodeObject (Cover.initFrom_eq_ok_iff numbers)
  have hss := exact_decodeArray (exact_decodeObject (Screenshot.initFrom_eq_ok_iff numbers))
  constructor
  · intro h
    obtain ⟨alternateTitles, h₁, h⟩ := bind_eq_ok_iff.mp h
    obtain ⟨description, h₂, h⟩ := bind_eq_ok_iff.mp h
    obtain ⟨gameId, h₃, h⟩ := bind_eq_ok_iff.mp h
    obtain ⟨genres, h₄, h⟩ := bind_eq_ok_iff.mp h
    obtain ⟨mobyScore, h₅, h⟩ := bind_eq_ok_iff.mp h
    obtain ⟨mobyURL, h₆, h⟩ := bind_eq_ok_iff.mp h
    obtain ⟨numVotes, h₇, h⟩ := bind_eq_ok_iff.mp h
    obtain ⟨officialURL, h₈, h⟩ := bind_eq_ok_iff.mp h
    obtain ⟨platforms, h₉, h⟩ := bind_eq_ok_iff.mp h
    obtain ⟨sampleCover, h₁₀, h⟩ := bind_eq_ok_iff.mp h
    obtain ⟨sampleScreenshots, h₁₁, h⟩ := bind_eq_ok_iff.mp h
    obtain ⟨title, h₁₂, h⟩ := bind_eq_ok_iff.mp h
    cases h
    exact {
      alternateTitles := (c.decodeIfPresent_eq_ok_iff ht).mp h₁
      description := (c.decodeIfPresent_eq_ok_iff hs).mp h₂
      gameId := (c.decodeIfPresent_eq_ok_iff hi).mp h₃
      genres := (c.decodeIfPresent_eq_ok_iff hg).mp h₄
      mobyScore := (c.decodeIfPresent_eq_ok_iff hd).mp h₅
      mobyURL := (c.decodeIfPresent_eq_ok_iff hs).mp h₆
      numVotes := (c.decodeIfPresent_eq_ok_iff hi).mp h₇
      officialURL := (c.decodeIfPresent_eq_ok_iff hs).mp h₈
      platforms := (c.decodeIfPresent_eq_ok_iff hp).mp h₉
      sampleCover := (c.decodeIfPresent_eq_ok_iff hc).mp h₁₀
      sampleScreenshots := (c.decodeIfPresent_eq_ok_iff hss).mp h₁₁
      title := (c.decodeIfPresent_eq_ok_iff hs).mp h₁₂ }
  · intro h
    refine bind_eq_ok_iff.mpr ⟨_, (c.decodeIfPresent_eq_ok_iff ht).mpr h.alternateTitles, ?_⟩
    refine bind_eq_ok_iff.mpr ⟨_, (c.decodeIfPresent_eq_ok_iff hs).mpr h.description, ?_⟩
    refine bind_eq_ok_iff.mpr ⟨_, (c.decodeIfPresent_eq_ok_iff hi).mpr h.gameId, ?_⟩
    refine bind_eq_ok_iff.mpr ⟨_, (c.decodeIfPresent_eq_ok_iff hg).mpr h.genres, ?_⟩
    refine bind_eq_ok_iff.mpr ⟨_, (c.decodeIfPresent_eq_ok_iff hd).mpr h.mobyScore, ?_⟩
    refine bind_eq_ok_iff.mpr ⟨_, (c.decodeIfPresent_eq_ok_iff hs).mpr h.mobyURL, ?_⟩
    refine bind_eq_ok_iff.mpr ⟨_, (c.decodeIfPresent_eq_ok_iff hi).mpr h.numVotes, ?_⟩
    refine bind_eq_ok_iff.mpr ⟨_, (c.decodeIfPresent_eq_ok_iff hs).mpr h.officialURL, ?_⟩
    refine bind_eq_ok_iff.mpr ⟨_, (c.decodeIfPresent_eq_ok_iff hp).mpr h.platforms, ?_⟩
    refine bind_eq_ok_iff.mpr ⟨_, (c.decodeIfPresent_eq_ok_iff hc).mpr h.sampleCover, ?_⟩
    refine bind_eq_ok_iff.mpr ⟨_, (c.decodeIfPresent_eq_ok_iff hss).mpr h.sampleScreenshots, ?_⟩
    refine bind_eq_ok_iff.mpr ⟨_, (c.decodeIfPresent_eq_ok_iff hs).mpr h.title, ?_⟩
    rfl

/-! ### What an error says of the document -/

theorem AlternateTitles.reports_initFrom {root : Json ν} {c : KeyedContainer ν} (h : c.In root) :
    Reports numbers root c.codingPath (AlternateTitles.initFrom c) := by
  refine (h.decodeIfPresent "description" truthful_decodeString).bind fun _ _ => ?_
  refine (h.decodeIfPresent "title" truthful_decodeString).bind fun _ _ => ?_
  exact reports_ok root c.codingPath _

theorem Genre.reports_initFrom {root : Json ν} {c : KeyedContainer ν} (h : c.In root) :
    Reports numbers root c.codingPath (Genre.initFrom numbers c) := by
  refine (h.decode "genre_category" truthful_decodeString).bind fun _ _ => ?_
  refine (h.decode "genre_category_id" (truthful_decodeInt numbers)).bind fun _ _ => ?_
  refine (h.decode "genre_id" (truthful_decodeInt numbers)).bind fun _ _ => ?_
  refine (h.decode "genre_name" truthful_decodeString).bind fun _ _ => ?_
  exact reports_ok root c.codingPath _

theorem Platform.reports_initFrom {root : Json ν} {c : KeyedContainer ν} (h : c.In root) :
    Reports numbers root c.codingPath (Platform.initFrom numbers c) := by
  refine (h.decode "first_release_date" truthful_decodeString).bind fun _ _ => ?_
  refine (h.decode "platform_id" (truthful_decodeInt numbers)).bind fun _ _ => ?_
  refine (h.decode "platform_name" truthful_decodeString).bind fun _ _ => ?_
  exact reports_ok root c.codingPath _

theorem Cover.reports_initFrom {root : Json ν} {c : KeyedContainer ν} (h : c.In root) :
    Reports numbers root c.codingPath (Cover.initFrom numbers c) := by
  refine (h.decode "height" (truthful_decodeInt numbers)).bind fun _ _ => ?_
  refine (h.decode "image" truthful_decodeString).bind fun _ _ => ?_
  refine (h.decode "platforms" (truthful_decodeArray truthful_decodeString)).bind fun _ _ => ?_
  refine (h.decode "thumbnail_image" truthful_decodeString).bind fun _ _ => ?_
  refine (h.decode "width" (truthful_decodeInt numbers)).bind fun _ _ => ?_
  exact reports_ok root c.codingPath _

theorem Screenshot.reports_initFrom {root : Json ν} {c : KeyedContainer ν} (h : c.In root) :
    Reports numbers root c.codingPath (Screenshot.initFrom numbers c) := by
  refine (h.decode "caption" truthful_decodeString).bind fun _ _ => ?_
  refine (h.decode "height" (truthful_decodeInt numbers)).bind fun _ _ => ?_
  refine (h.decode "image" truthful_decodeString).bind fun _ _ => ?_
  refine (h.decode "thumbnail_image" truthful_decodeString).bind fun _ _ => ?_
  refine (h.decode "width" (truthful_decodeInt numbers)).bind fun _ _ => ?_
  exact reports_ok root c.codingPath _

theorem Game.reports_initFrom {root : Json ν} {c : KeyedContainer ν} (h : c.In root) :
    Reports numbers root c.codingPath (Game.initFrom numbers c) := by
  have hat := truthful_decodeArray (ν := ν) (truthful_decodeObject fun _ _ => AlternateTitles.reports_initFrom numbers)
  have hg := truthful_decodeArray (ν := ν) (truthful_decodeObject fun _ _ => Genre.reports_initFrom numbers)
  have hp := truthful_decodeArray (ν := ν) (truthful_decodeObject fun _ _ => Platform.reports_initFrom numbers)
  have hc := truthful_decodeObject (ν := ν) fun _ _ => Cover.reports_initFrom numbers
  have hss := truthful_decodeArray (ν := ν) (truthful_decodeObject fun _ _ => Screenshot.reports_initFrom numbers)
  refine (h.decodeIfPresent "alternate_titles" hat).bind fun _ _ => ?_
  refine (h.decodeIfPresent "description" truthful_decodeString).bind fun _ _ => ?_
  refine (h.decodeIfPresent "game_id" (truthful_decodeInt numbers)).bind fun _ _ => ?_
  refine (h.decodeIfPresent "genres" hg).bind fun _ _ => ?_
  refine (h.decodeIfPresent "moby_score" (truthful_decodeDouble numbers)).bind fun _ _ => ?_
  refine (h.decodeIfPresent "moby_url" truthful_decodeString).bind fun _ _ => ?_
  refine (h.decodeIfPresent "num_votes" (truthful_decodeInt numbers)).bind fun _ _ => ?_
  refine (h.decodeIfPresent "official_url" truthful_decodeString).bind fun _ _ => ?_
  refine (h.decodeIfPresent "platforms" hp).bind fun _ _ => ?_
  refine (h.decodeIfPresent "sample_cover" hc).bind fun _ _ => ?_
  refine (h.decodeIfPresent "sample_screenshots" hss).bind fun _ _ => ?_
  refine (h.decodeIfPresent "title" truthful_decodeString).bind fun _ _ => ?_
  exact reports_ok root c.codingPath _

namespace MobyGamesService

/-! ### What a fetch calls its completion with -/

theorem responseDecodable_eq_ok_iff {f : KeyedContainer ν → Except DecodingError α}
    {R : List (String × Json ν) → α → Prop} (hf : ∀ c a, f c = .ok a ↔ R c.members a) {response : Except ε (Json ν)}
    {a : α} : responseDecodable f response = .ok a ↔ ∃ v, response = .ok v ∧ IsObject R v a := by
  cases response with
  | error error => simp [responseDecodable]
  | ok v =>
    simp only [responseDecodable, Except.ok.injEq, exists_eq_left']
    rw [← exact_decodeObject hf [] v a]
    cases decodeObject f [] v <;> simp [Except.mapError]

theorem gameResponse_eq_ok_iff {response : Except ε (Json ν)} {games : List Game} :
    responseDecodable (GameResponse.initFrom numbers) response = .ok games ↔ ∃ v, response = .ok v ∧
      IsObject (Has (IsArray (IsObject (Game.In numbers))) "games") v games :=
  responseDecodable_eq_ok_iff fun c _ =>
    c.decode_eq_ok_iff (exact_decodeArray (exact_decodeObject (Game.initFrom_eq_ok_iff numbers)))

theorem fetchGames_eq_ok_iff {response : Except ε (Json ν)} {games : List Game} :
    Completion.fetchGames numbers response = .ok games ↔ ∃ v, response = .ok v ∧
      IsObject (Has (IsArray (IsObject (Game.In numbers))) "games") v games :=
  gameResponse_eq_ok_iff numbers

/-- **A response is decoded whole, to what it says, or not at all**: each of the seven fetches succeeds with a value
exactly when there is a document and the document says, key by key, that it is this value. -/
theorem success_iff (response : Except ε (Json ν)) :
    (∀ games, Completion.fetchGames numbers response = .ok games ↔ ∃ v, response = .ok v ∧
      IsObject (Has (IsArray (IsObject (Game.In numbers))) "games") v games) ∧
    (∀ games, Completion.fetchGamesByTitle numbers response = .ok games ↔ ∃ v, response = .ok v ∧
      IsObject (Has (IsArray (IsObject (Game.In numbers))) "games") v games) ∧
    (∀ games, Completion.searchGames numbers response = .ok games ↔ ∃ v, response = .ok v ∧
      IsObject (Has (IsArray (IsObject (Game.In numbers))) "games") v games) ∧
    (∀ game, Completion.fetchGameById numbers response = .ok game ↔ ∃ v, response = .ok v ∧
      IsObject (Game.In numbers) v game) ∧
    (∀ ids, Completion.fetchGameId numbers response = .ok ids ↔ ∃ v, response = .ok v ∧
      IsObject (Has (IsArray (IsNumber numbers.int)) "games") v ids) ∧
    (∀ genres, Completion.fetchGenres numbers response = .ok genres ↔ ∃ v, response = .ok v ∧
      IsObject (Has (IsArray (IsObject (Genre.In numbers))) "genres") v genres) ∧
    ∀ platforms, Completion.fetchPlatforms numbers response = .ok platforms ↔ ∃ v, response = .ok v ∧
      IsObject (Has (IsArray (IsObject (Platform.In numbers))) "platform") v platforms := by
  have hids := exact_decodeArray (exact_decodeInt numbers)
  have hgenres := exact_decodeArray (exact_decodeObject (Genre.initFrom_eq_ok_iff numbers))
  have hplatforms := exact_decodeArray (exact_decodeObject (Platform.initFrom_eq_ok_iff numbers))
  refine ⟨fun games => fetchGames_eq_ok_iff numbers, fun games => gameResponse_eq_ok_iff numbers,
    fun games => gameResponse_eq_ok_iff numbers, fun game => ?_, fun ids => ?_, fun genres => ?_, fun platforms => ?_⟩
  · exact responseDecodable_eq_ok_iff (Game.initFrom_eq_ok_iff numbers)
  · exact responseDecodable_eq_ok_iff fun c _ => c.decode_eq_ok_iff hids
  · exact responseDecodable_eq_ok_iff fun c _ => c.decode_eq_ok_iff hgenres
  · exact responseDecodable_eq_ok_iff fun c _ => c.decode_eq_ok_iff hplatforms

/-- The error describes the document of the response. -/
def Explains (response : Except ε (Json ν)) (x : Except (FetchError ε) α) : Prop :=
  ∀ e, x = .error (.decoding e) → ∃ v, response = .ok v ∧ e.Describes numbers v

theorem explains_responseDecodable {f : KeyedContainer ν → Except DecodingError α}
    (hf : ∀ (root : Json ν) c, c.In root → Reports numbers root c.codingPath (f c)) (response : Except ε (Json ν)) :
    Explains numbers response (responseDecodable f response) := by
  intro e he
  cases response with
  | error error => cases he
  | ok v =>
    refine ⟨v, rfl, ?_⟩
    have hd := truthful_decodeObject hf v [] v rfl
    simp only [responseDecodable] at he
    cases hv : decodeObject f [] v with
    | ok a =>
      rw [hv] at he
      cases he
    | error e' =>
      rw [hv] at he
      cases he
      exact (hd e hv).1

/-- **Every decoding error is true of the document**: at its path the document lacks the key, has `null`, a value of
another kind, or a number that is not one of the type asked, as the error says. -/
theorem failure_describes (response : Except ε (Json ν)) :
    Explains numbers response (Completion.fetchGames numbers response) ∧
    Explains numbers response (Completion.fetchGamesByTitle numbers response) ∧
    Explains numbers response (Completion.searchGames numbers response) ∧
    Explains numbers response (Completion.fetchGameById numbers response) ∧
    Explains numbers response (Completion.fetchGameId numbers response) ∧
    Explains numbers response (Completion.fetchGenres numbers response) ∧
    Explains numbers response (Completion.fetchPlatforms numbers response) := by
  have hgames := truthful_decodeArray (ν := ν) (truthful_decodeObject fun _ _ => Game.reports_initFrom numbers)
  have hids := truthful_decodeArray (truthful_decodeInt numbers)
  have hgenres := truthful_decodeArray (ν := ν) (truthful_decodeObject fun _ _ => Genre.reports_initFrom numbers)
  have hplatforms := truthful_decodeArray (ν := ν) (truthful_decodeObject fun _ _ => Platform.reports_initFrom numbers)
  refine ⟨?_, ?_, ?_, ?_, ?_, ?_, ?_⟩
  · exact explains_responseDecodable numbers (fun _ _ h => h.decode "games" hgames) response
  · exact explains_responseDecodable numbers (fun _ _ h => h.decode "games" hgames) response
  · exact explains_responseDecodable numbers (fun _ _ h => h.decode "games" hgames) response
  · exact explains_responseDecodable numbers (fun _ _ => Game.reports_initFrom numbers) response
  · exact explains_responseDecodable numbers (fun _ _ h => h.decode "games" hids) response
  · exact explains_responseDecodable numbers (fun _ _ h => h.decode "genres" hgenres) response
  · exact explains_responseDecodable numbers (fun _ _ h => h.decode "platform" hplatforms) response

/-- A document with an array of games is decoded by decoding the array. -/
theorem fetchGames_of_games {v : Json ν} {elements : List (Json ν)}
    (hv : v.valueAt [.key "games"] = some (.array elements)) :
    Completion.fetchGames numbers (.ok v : Except ε (Json ν)) =
      (decodeArray (decodeObject (Game.initFrom numbers)) [.key "games"] (.array elements)).mapError .decoding := by
  obtain ⟨w, hw, hv⟩ := Option.bind_eq_some_iff.mp hv
  obtain rfl : w = .array elements := Option.some.inj hv
  cases v with
  | object members =>
    have hd : decodeObject (GameResponse.initFrom numbers) [] (.object members) =
        decodeArray (decodeObject (Game.initFrom numbers)) [.key "games"] (.array elements) :=
      KeyedContainer.decode_of_lookup (c := ⟨[], members⟩) hw _
    rw [Completion.fetchGames, responseDecodable, hd]
  | _ => cases hw

/-- **One game refused hides them all**: given an array of games, the fetch fails exactly when one of them does not
decode, with the error of the first such. -/
theorem fetchGames_failure_iff {v : Json ν} {elements : List (Json ν)}
    (hv : v.valueAt [.key "games"] = some (.array elements)) (e : DecodingError) :
    Completion.fetchGames numbers (.ok v : Except ε (Json ν)) = .error (.decoding e) ↔
      ∃ i w, elements[i]? = some w ∧ decodeObject (Game.initFrom numbers) [.key "games", .index i] w = .error e ∧
        ∀ j < i, ∀ x, elements[j]? = some x → ∃ game, IsObject (Game.In numbers) x game := by
  have hd := exact_decodeObject (Game.initFrom_eq_ok_iff numbers)
  rw [fetchGames_of_games numbers hv]
  have hm : ∀ x : Except DecodingError (List Game),
      x.mapError (FetchError.decoding (ε := ε)) = .error (.decoding e) ↔ x = .error e := by
    intro x
    cases x <;> simp [Except.mapError]
  rw [hm, decodeArray_eq_error_iff]
  refine exists_congr fun i => exists_congr fun w => and_congr_right fun _ => and_congr_right fun _ => ?_
  exact forall₂_congr fun j _ => forall₂_congr fun x _ => exists_congr fun game => hd _ x game

/-- Numbers that are integers. -/
def integers : Numbers ℤ := ⟨fun n => some (Int64.ofInt n), fun n => some (Float.ofInt n)⟩

/-- A response with two games: one with nothing but an id, the other with an id that is a text. -/
def twoGames (second : Json ℤ) : Json ℤ :=
  .object [("games", .array [.object [("game_id", .number 7)], .object [("title", .null), ("game_id", second)]])]

theorem fetchGames_failure_iff_twoGames :
    Completion.fetchGames integers (.ok (twoGames (.string "8")) : Except Unit (Json ℤ)) =
        .error (.decoding (.typeMismatch .number [.key "games", .index 1, .key "game_id"])) ↔
      ∃ i w, [Json.object [("game_id", .number 7)], .object [("title", .null), ("game_id", .string "8")]][i]? = some w ∧
        decodeObject (Game.initFrom integers) [.key "games", .index i] w =
          .error (.typeMismatch .number [.key "games", .index 1, .key "game_id"]) ∧
        ∀ j < i, ∀ x, [Json.object [("game_id", .number 7)], .object [("title", .null), ("game_id", .string "8")]][j]? =
          some x → ∃ game, IsObject (Game.In integers) x game :=
  fetchGames_failure_iff integers rfl _

end MobyGamesService

end Booster
