import DocQuery.Text.Script

/-!
Characters that several scripts share. A script is taken to use its own characters and the shared
ones that list it; a shared character does not count for the script it is filed under.
-/

namespace DocQuery.Text.Script

/-- Groups of shared characters, each with the codes of the scripts that use it. -/
def shared : List (List String × CharSet) :=
  [(["avst", "cari", "copt", "dupl", "elba", "geor", "glag", "gong", "goth", "grek", "hani",
      "latn", "lydi", "mahj", "perm", "shaw"], CharSet.parse "b7"),
    (["beng", "cyrl", "deva", "latn", "lisu", "thai", "toto"], CharSet.parse "2bc"),
    (["bopo", "latn"], CharSet.parse "2c7 2c9-2cb 2d9"),
    (["latn", "lisu"], CharSet.parse "2cd"),
    (["latn", "thai"], CharSet.parse "2d7"),
    (["cher", "copt", "cyrl", "grek", "latn", "perm", "sunu", "tale"], CharSet.parse "300"),
    (["cher", "cyrl", "grek", "latn", "osge", "sunu", "tale", "todr"], CharSet.parse "301"),
    (["cher", "cyrl", "latn", "tfng"], CharSet.parse "302"),
    (["glag", "latn", "sunu", "syrc", "thai"], CharSet.parse "303"),
    (["aghb", "cher", "copt", "cyrl", "goth", "grek", "latn", "osge", "syrc", "tfng", "todr"],
      CharSet.parse "304"),
    (["copt", "elba", "glag", "goth", "kana", "latn"], CharSet.parse "305"),
    (["cyrl", "grek", "latn", "perm", "tfng"], CharSet.parse "306"),
    (["copt", "dupl", "hebr", "latn", "perm", "syrc", "tale", "tfng", "todr"],
      CharSet.parse "307"),
    (["armn", "cyrl", "dupl", "goth", "grek", "hebr", "latn", "perm", "syrc", "tale", "tfng"],
      CharSet.parse "308"),
    (["latn", "tfng"], CharSet.parse "309"),
    (["dupl", "latn", "syrc"], CharSet.parse "30a"),
    (["cher", "cyrl", "latn", "osge"], CharSet.parse "30b"),
    (["cher", "latn", "tale"], CharSet.parse "30c"),
    (["latn", "sunu"], CharSet.parse "30d 310"),
    (["ethi", "latn"], CharSet.parse "30e"),
    (["cyrl", "latn", "todr"], CharSet.parse "311"),
    (["grek", "latn", "perm", "todr"], CharSet.parse "313"),
    (["cher", "dupl", "kana", "latn", "syrc", "tfng"], CharSet.parse "323"),
    (["cher", "dupl", "latn", "syrc"], CharSet.parse "324"),
    (["latn", "syrc"], CharSet.parse "325 32e"),
    (["latn", "sunu", "syrc"], CharSet.parse "32d"),
    (["cher", "latn", "syrc"], CharSet.parse "330"),
    (["aghb", "cher", "goth", "latn", "sunu", "syrc", "thai"], CharSet.parse "331"),
    (["grek"], CharSet.parse "342 345 1dc0-1dc1"),
    (["latn", "osge"], CharSet.parse "358"),
    (["aghb", "latn", "todr"], CharSet.parse "35e"),
    (["latn"], CharSet.parse "363-36f"),
    (["copt", "grek"], CharSet.parse "374-375"),
    (["cyrl", "perm"], CharSet.parse "483"),
    (["cyrl", "glag"], CharSet.parse "484 487 2e43 a66f"),
    (["cyrl", "latn"], CharSet.parse "485-486"),
    (["armn", "geor", "glag"], CharSet.parse "589"),
    (["arab", "gara", "nkoo", "rohg", "syrc", "thaa", "yezi"], CharSet.parse "60c 61b"),
    (["arab", "syrc", "thaa"], CharSet.parse "61c"),
    (["adlm", "arab", "gara", "nkoo", "rohg", "syrc", "thaa", "yezi"], CharSet.parse "61f"),
    (["adlm", "arab", "mand", "mani", "ougr", "phlp", "rohg", "sogd", "syrc"],
      CharSet.parse "640"),
    (["arab", "syrc"], CharSet.parse "64b-655 670"),
    (["arab", "thaa", "yezi"], CharSet.parse "660-669"),
    (["arab", "rohg"], CharSet.parse "6d4"),
    (["beng", "deva", "gran", "gujr", "guru", "knda", "latn", "mlym", "nand", "newa", "orya",
      "shrd", "taml", "telu", "tirh"], CharSet.parse "951"),
    (["beng", "deva", "gran", "gujr", "guru", "knda", "latn", "mlym", "newa", "orya", "taml",
      "telu", "tirh"], CharSet.parse "952"),
    (["beng", "deva", "dogr", "gong", "gonm", "gran", "gujr", "guru", "knda", "mahj", "mlym",
      "nand", "onao", "orya", "sind", "sinh", "sylo", "takr", "taml", "telu", "tirh"],
      CharSet.parse "964"),
    (["beng", "deva", "dogr", "gong", "gonm", "gran", "gujr", "gukh", "guru", "knda", "limb",
      "mahj", "mlym", "nand", "onao", "orya", "sind", "sinh", "sylo", "takr", "taml",
      "telu", "tirh"], CharSet.parse "965"),
    (["deva", "dogr", "kthi", "mahj"], CharSet.parse "966-96f"),
    (["beng", "cakm", "sylo"], CharSet.parse "9e6-9ef"),
    (["guru", "mult"], CharSet.parse "a66-a6f"),
    (["gujr", "khoj"], CharSet.parse "ae6-aef"),
    (["gran", "taml"], CharSet.parse "be6-bf3 11301 11303 1133b-1133c 11fd0-11fd1 11fd3"),
    (["knda", "nand", "tutg"], CharSet.parse "ce6-cef"),
    (["cakm", "mymr", "tale"], CharSet.parse "1040-1049"),
    (["geor", "glag", "latn"], CharSet.parse "10fb"),
    (["runr"], CharSet.parse "16eb-16ed"),
    (["buhd", "hano", "tagb", "tglg"], CharSet.parse "1735-1736"),
    (["mong", "phag"], CharSet.parse "1802-1803 1805"),
    (["beng", "deva", "gran", "knda"], CharSet.parse "1cd0 1cd2"),
    (["deva"], CharSet.parse "1cd1 1cd4 1cdb 1cde-1cdf 1ce3-1ce8 1cec 1cee-1cf1"),
    (["deva", "gran", "knda"], CharSet.parse "1cd3"),
    (["beng", "deva", "newa", "telu", "tirh"], CharSet.parse "1cd5"),
    (["beng", "deva", "telu"], CharSet.parse "1cd6"),
    (["deva", "newa", "shrd"], CharSet.parse "1cd7"),
    (["beng", "deva", "newa", "telu"], CharSet.parse "1cd8"),
    (["deva", "shrd"], CharSet.parse "1cd9 1cdc-1cdd 1ce0"),
    (["deva", "knda", "mlym", "orya", "taml", "telu"], CharSet.parse "1cda"),
    (["beng", "deva"], CharSet.parse "1ce1 1cf5-1cf6"),
    (["deva", "newa", "tirh"], CharSet.parse "1ce2"),
    (["deva", "nand", "newa"], CharSet.parse "1ce9"),
    (["beng", "deva", "shrd"], CharSet.parse "1cea"),
    (["deva", "newa"], CharSet.parse "1ceb"),
    (["beng", "deva", "newa", "shrd"], CharSet.parse "1ced"),
    (["beng", "deva", "gran", "knda", "mlym", "nand", "orya", "sinh", "telu", "tirh", "tutg"],
      CharSet.parse "1cf2"),
    (["deva", "gran"], CharSet.parse "1cf3 1cf8-1cf9"),
    (["deva", "gran", "knda", "tutg"], CharSet.parse "1cf4"),
    (["beng"], CharSet.parse "1cf7"),
    (["nand"], CharSet.parse "1cfa"),
    (["cyrl", "latn", "syrc"], CharSet.parse "1df8"),
    (["syrc"], CharSet.parse "1dfa"),
    (["latn", "mong", "phag"], CharSet.parse "202f"),
    (["adlm", "arab"], CharSet.parse "204f"),
    (["cari", "geor", "glag", "hung", "lyci", "orkh"], CharSet.parse "205a"),
    (["cari", "grek", "hung", "mero"], CharSet.parse "205d"),
    (["deva", "gran", "latn"], CharSet.parse "20f0"),
    (["copt", "latn"], CharSet.parse "2e17"),
    (["avst", "orkh"], CharSet.parse "2e30"),
    (["avst", "cari", "geor", "hung", "kthi", "lydi", "samr"], CharSet.parse "2e31"),
    (["dupl"], CharSet.parse "2e3c 1bca0-1bca3"),
    (["adlm", "arab", "hung"], CharSet.parse "2e41"),
    (["hani", "tang"], CharSet.parse "2ff0-2fff 31ef"),
    (["bopo", "hang", "hani", "hira", "kana", "mong", "yiii"], CharSet.parse "3001"),
    (["bopo", "hang", "hani", "hira", "kana", "mong", "phag", "yiii"], CharSet.parse "3002"),
    (["bopo", "hang", "hani", "hira", "kana"],
      CharSet.parse "3003 3013 301c-301f 3030 3037 fe45-fe46"),
    (["hani"],
      CharSet.parse
      "3006 303e-303f 3190-319f 31c0-31e5 3220-3247 3280-32b0 32c0-32cb 32ff 3358-3370 337b-337f
      33e0-33fe 1d360-1d371 1f250-1f251"),
    (["bopo", "hang", "hani", "hira", "kana", "mong", "tibt", "yiii"],
      CharSet.parse "3008-3009"),
    (["bopo", "hang", "hani", "hira", "kana", "lisu", "mong", "tibt", "yiii"],
      CharSet.parse "300a-300b"),
    (["bopo", "hang", "hani", "hira", "kana", "yiii"],
      CharSet.parse "300c-3011 3014-301b 30fb ff61-ff65"),
    (["bopo", "hani"], CharSet.parse "302a-302d"),
    (["hira", "kana"], CharSet.parse "3031-3035 3099-309c 30a0 30fc ff70 ff9e-ff9f"),
    (["hani", "hira", "kana"], CharSet.parse "303c-303d"),
    (["hani", "latn"], CharSet.parse "a700-a707"),
    (["deva", "dogr", "gujr", "guru", "khoj", "knda", "kthi", "mahj", "mlym", "modi", "nand",
      "shrd", "sind", "takr", "tirh", "tutg"], CharSet.parse "a830-a832"),
    (["deva", "dogr", "gujr", "guru", "khoj", "knda", "kthi", "mahj", "modi", "nand", "shrd",
      "sind", "takr", "tirh", "tutg"], CharSet.parse "a833-a835"),
    (["deva", "dogr", "gujr", "guru", "khoj", "kthi", "mahj", "modi", "sind", "takr", "tirh"],
      CharSet.parse "a836-a837 a839"),
    (["deva", "dogr", "gujr", "guru", "khoj", "kthi", "mahj", "modi", "shrd", "sind", "takr",
      "tirh"], CharSet.parse "a838"),
    (["beng", "deva", "tutg"], CharSet.parse "a8f1"),
    (["deva", "taml"], CharSet.parse "a8f3"),
    (["kali", "latn", "mymr"], CharSet.parse "a92e"),
    (["bugi", "java"], CharSet.parse "a9cf"),
    (["arab", "nkoo"], CharSet.parse "fd3e-fd3f"),
    (["arab", "thaa"], CharSet.parse "fdf2 fdfd"),
    (["cpmn", "cprt", "linb"], CharSet.parse "10100-10101"),
    (["cprt", "linb"], CharSet.parse "10102 10137-1013f"),
    (["cprt", "lina", "linb"], CharSet.parse "10107-10133"),
    (["arab", "copt"], CharSet.parse "102e0-102fb"),
    (["mani", "ougr"], CharSet.parse "10af2")]

/-- All shared characters. -/
def sharedChars : CharSet := CharSet.unionOf (shared.map (·.2))

/-- The characters that a script uses, by the names of the script. -/
def used (names : List String) (own : CharSet) : CharSet :=
  (own.difference sharedChars).union
    (CharSet.unionOf (shared.filterMap fun (users, set) =>
      if users.any names.contains then some set else none))

end DocQuery.Text.Script
