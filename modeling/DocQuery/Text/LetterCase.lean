import DocQuery.Text.CharTable
import DocQuery.Text.Property

/-!
Upper and lower case of texts, by the full case mappings of Unicode. The upper case of a character
may be several characters. A capital sigma at the end of a word becomes the final small sigma.
-/

namespace DocQuery.Text

/-- Characters whose upper case is one other character. -/
def upperTable : CharTable := CharTable.parse
  "61-7a:-32 b5:743 e0-f6:-32 f8-fe:-32 ff:121 101-12f/2:-1 131:-232 133-137/2:-1 13a-148/2:-1
    14b-177/2:-1 17a-17e/2:-1 17f:-300 180:195 183-185/2:-1 188:-1 18c:-1 192:-1 195:97 199:-1
    19a:163 19b:42561 19e:130 1a1-1a5/2:-1 1a8:-1 1ad:-1 1b0:-1 1b4-1b6/2:-1 1b9:-1 1bd:-1
    1bf:56 1c5:-1 1c6:-2 1c8:-1 1c9:-2 1cb:-1 1cc:-2 1ce-1dc/2:-1 1dd:-79 1df-1ef/2:-1 1f2:-1
    1f3:-2 1f5:-1 1f9-21f/2:-1 223-233/2:-1 23c:-1 23f-240:10815 242:-1 247-24f/2:-1 250:10783
    251:10780 252:10782 253:-210 254:-206 256-257:-205 259:-202 25b:-203 25c:42319 260:-205
    261:42315 263:-207 264:42343 265:42280 266:42308 268:-209 269:-211 26a:42308 26b:10743
    26c:42305 26f:-211 271:10749 272:-213 275:-214 27d:10727 280:-218 282:42307 283:-218
    287:42282 288:-218 289:-69 28a-28b:-217 28c:-71 292:-219 29d:42261 29e:42258 345:84
    371-373/2:-1 377:-1 37b-37d:130 3ac:-38 3ad-3af:-37 3b1-3c1:-32 3c2:-31 3c3-3cb:-32 3cc:-64
    3cd-3ce:-63 3d0:-62 3d1:-57 3d5:-47 3d6:-54 3d7:-8 3d9-3ef/2:-1 3f0:-86 3f1:-80 3f2:7
    3f3:-116 3f5:-96 3f8:-1 3fb:-1 430-44f:-32 450-45f:-80 461-481/2:-1 48b-4bf/2:-1
    4c2-4ce/2:-1 4cf:-15 4d1-52f/2:-1 561-586:-48 10d0-10fa:3008 10fd-10ff:3008 13f8-13fd:-8
    1c80:-6254 1c81:-6253 1c82:-6244 1c83-1c84:-6242 1c85:-6243 1c86:-6236 1c87:-6181 1c88:35266
    1c8a:-1 1d79:35332 1d7d:3814 1d8e:35384 1e01-1e95/2:-1 1e9b:-59 1ea1-1eff/2:-1 1f00-1f07:8
    1f10-1f15:8 1f20-1f27:8 1f30-1f37:8 1f40-1f45:8 1f51-1f57/2:8 1f60-1f67:8 1f70-1f71:74
    1f72-1f75:86 1f76-1f77:100 1f78-1f79:128 1f7a-1f7b:112 1f7c-1f7d:126 1fb0-1fb1:8 1fbe:-7205
    1fd0-1fd1:8 1fe0-1fe1:8 1fe5:7 214e:-28 2170-217f:-16 2184:-1 24d0-24e9:-26 2c30-2c5f:-48
    2c61:-1 2c65:-10795 2c66:-10792 2c68-2c6c/2:-1 2c73:-1 2c76:-1 2c81-2ce3/2:-1 2cec-2cee/2:-1
    2cf3:-1 2d00-2d25:-7264 2d27:-7264 2d2d:-7264 a641-a66d/2:-1 a681-a69b/2:-1 a723-a72f/2:-1
    a733-a76f/2:-1 a77a-a77c/2:-1 a77f-a787/2:-1 a78c:-1 a791-a793/2:-1 a794:48 a797-a7a9/2:-1
    a7b5-a7c3/2:-1 a7c8-a7ca/2:-1 a7cd-a7db/2:-1 a7f6:-1 ab53:-928 ab70-abbf:-38864
    ff41-ff5a:-32 10428-1044f:-40 104d8-104fb:-40 10597-105a1:-39 105a3-105b1:-39
    105b3-105b9:-39 105bb-105bc:-39 10cc0-10cf2:-64 10d70-10d85:-32 118c0-118df:-32
    16e60-16e7f:-32 16ebb-16ed3:-27 1e922-1e943:-34"

/-- Characters whose lower case is one other character. -/
def lowerTable : CharTable := CharTable.parse
  "41-5a:32 c0-d6:32 d8-de:32 100-12e/2:1 132-136/2:1 139-147/2:1 14a-176/2:1 178:-121
    179-17d/2:1 181:210 182-184/2:1 186:206 187:1 189-18a:205 18b:1 18e:79 18f:202 190:203 191:1
    193:205 194:207 196:211 197:209 198:1 19c:211 19d:213 19f:214 1a0-1a4/2:1 1a6:218 1a7:1
    1a9:218 1ac:1 1ae:218 1af:1 1b1-1b2:217 1b3-1b5/2:1 1b7:219 1b8:1 1bc:1 1c4:2 1c5:1 1c7:2
    1c8:1 1ca:2 1cb-1db/2:1 1de-1ee/2:1 1f1:2 1f2-1f4/2:1 1f6:-97 1f7:-56 1f8-21e/2:1 220:-130
    222-232/2:1 23a:10795 23b:1 23d:-163 23e:10792 241:1 243:-195 244:69 245:71 246-24e/2:1
    370-372/2:1 376:1 37f:116 386:38 388-38a:37 38c:64 38e-38f:63 391-3a1:32 3a3-3ab:32 3cf:8
    3d8-3ee/2:1 3f4:-60 3f7:1 3f9:-7 3fa:1 3fd-3ff:-130 400-40f:80 410-42f:32 460-480/2:1
    48a-4be/2:1 4c0:15 4c1-4cd/2:1 4d0-52e/2:1 531-556:48 10a0-10c5:7264 10c7:7264 10cd:7264
    13a0-13ef:38864 13f0-13f5:8 1c89:1 1c90-1cba:-3008 1cbd-1cbf:-3008 1e00-1e94/2:1 1e9e:-7615
    1ea0-1efe/2:1 1f08-1f0f:-8 1f18-1f1d:-8 1f28-1f2f:-8 1f38-1f3f:-8 1f48-1f4d:-8
    1f59-1f5f/2:-8 1f68-1f6f:-8 1f88-1f8f:-8 1f98-1f9f:-8 1fa8-1faf:-8 1fb8-1fb9:-8
    1fba-1fbb:-74 1fbc:-9 1fc8-1fcb:-86 1fcc:-9 1fd8-1fd9:-8 1fda-1fdb:-100 1fe8-1fe9:-8
    1fea-1feb:-112 1fec:-7 1ff8-1ff9:-128 1ffa-1ffb:-126 1ffc:-9 2126:-7517 212a:-8383
    212b:-8262 2132:28 2160-216f:16 2183:1 24b6-24cf:26 2c00-2c2f:48 2c60:1 2c62:-10743
    2c63:-3814 2c64:-10727 2c67-2c6b/2:1 2c6d:-10780 2c6e:-10749 2c6f:-10783 2c70:-10782 2c72:1
    2c75:1 2c7e-2c7f:-10815 2c80-2ce2/2:1 2ceb-2ced/2:1 2cf2:1 a640-a66c/2:1 a680-a69a/2:1
    a722-a72e/2:1 a732-a76e/2:1 a779-a77b/2:1 a77d:-35332 a77e-a786/2:1 a78b:1 a78d:-42280
    a790-a792/2:1 a796-a7a8/2:1 a7aa:-42308 a7ab:-42319 a7ac:-42315 a7ad:-42305 a7ae:-42308
    a7b0:-42258 a7b1:-42282 a7b2:-42261 a7b3:928 a7b4-a7c2/2:1 a7c4:-48 a7c5:-42307 a7c6:-35384
    a7c7-a7c9/2:1 a7cb:-42343 a7cc-a7da/2:1 a7dc:-42561 a7f5:1 ff21-ff3a:32 10400-10427:40
    104b0-104d3:40 10570-1057a:39 1057c-1058a:39 1058c-10592:39 10594-10595:39 10c80-10cb2:64
    10d50-10d65:32 118a0-118bf:32 16e40-16e5f:32 16ea0-16eb8:27 1e900-1e921:34"

/-- Characters whose upper case is several characters. -/
def longUpperText : String :=
  "df=53+53 149=2bc+4e 1f0=4a+30c 390=399+308+301 3b0=3a5+308+301 587=535+552 1e96=48+331
    1e97=54+308 1e98=57+30a 1e99=59+30a 1e9a=41+2be 1f50=3a5+313 1f52=3a5+313+300
    1f54=3a5+313+301 1f56=3a5+313+342 1f80=1f08+399 1f81=1f09+399 1f82=1f0a+399 1f83=1f0b+399
    1f84=1f0c+399 1f85=1f0d+399 1f86=1f0e+399 1f87=1f0f+399 1f88=1f08+399 1f89=1f09+399
    1f8a=1f0a+399 1f8b=1f0b+399 1f8c=1f0c+399 1f8d=1f0d+399 1f8e=1f0e+399 1f8f=1f0f+399
    1f90=1f28+399 1f91=1f29+399 1f92=1f2a+399 1f93=1f2b+399 1f94=1f2c+399 1f95=1f2d+399
    1f96=1f2e+399 1f97=1f2f+399 1f98=1f28+399 1f99=1f29+399 1f9a=1f2a+399 1f9b=1f2b+399
    1f9c=1f2c+399 1f9d=1f2d+399 1f9e=1f2e+399 1f9f=1f2f+399 1fa0=1f68+399 1fa1=1f69+399
    1fa2=1f6a+399 1fa3=1f6b+399 1fa4=1f6c+399 1fa5=1f6d+399 1fa6=1f6e+399 1fa7=1f6f+399
    1fa8=1f68+399 1fa9=1f69+399 1faa=1f6a+399 1fab=1f6b+399 1fac=1f6c+399 1fad=1f6d+399
    1fae=1f6e+399 1faf=1f6f+399 1fb2=1fba+399 1fb3=391+399 1fb4=386+399 1fb6=391+342
    1fb7=391+342+399 1fbc=391+399 1fc2=1fca+399 1fc3=397+399 1fc4=389+399 1fc6=397+342
    1fc7=397+342+399 1fcc=397+399 1fd2=399+308+300 1fd3=399+308+301 1fd6=399+342
    1fd7=399+308+342 1fe2=3a5+308+300 1fe3=3a5+308+301 1fe4=3a1+313 1fe6=3a5+342
    1fe7=3a5+308+342 1ff2=1ffa+399 1ff3=3a9+399 1ff4=38f+399 1ff6=3a9+342 1ff7=3a9+342+399
    1ffc=3a9+399 fb00=46+46 fb01=46+49 fb02=46+4c fb03=46+46+49 fb04=46+46+4c fb05=53+54
    fb06=53+54 fb13=544+546 fb14=544+535 fb15=544+53b fb16=54e+546 fb17=544+53d"

def longUpperTable : List (Char × List Char) :=
  (entries longUpperText).map fun entry =>
    let (code, images) := CharRun.cut '=' entry
    let (first, others) := CharRun.cut '+' images
    let (second, third) := CharRun.cut '+' others
    (Char.ofNat (CharRun.hexValue code),
      ([first, second, third].filter (!·.isEmpty)).map fun image =>
        Char.ofNat (CharRun.hexValue image))

def upperChar (c : Char) : List Char :=
  match List.lookup c longUpperTable with
  | some images => images
  | none => [upperTable.image c]

/-- The lower case of a character by itself. Only the capital dotted i has two characters. -/
def lowerChar (c : Char) : List Char :=
  if c = 'İ' then ['i', '\u0307'] else [lowerTable.image c]

def upper (text : List Char) : List Char := text.flatMap upperChar

/-- Whether the next character that counts has a case. -/
def nextIsCased (text : List Char) : Bool :=
  match text.dropWhile Property.caseIgnorable.contains with
  | c :: _ => Property.cased.contains c
  | [] => false

/-- The lower case of a text that follows the characters of `before`, last first. -/
def lowerAfter (before : List Char) : List Char → List Char
  | [] => []
  | c :: rest =>
    let small := if c = 'Σ' then
        if nextIsCased before && !nextIsCased rest then ['ς'] else ['σ']
      else lowerChar c
    small ++ lowerAfter (c :: before) rest

def lower (text : List Char) : List Char := lowerAfter [] text

end DocQuery.Text
