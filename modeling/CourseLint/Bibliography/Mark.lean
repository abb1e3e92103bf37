import CourseLint.Text.Basic

set_option autoImplicit false

namespace CourseLint.Bibliography

inductive Mark where
  | grave
  | acute
  | circumflex
  | tilde
  | macron
  | breve
  | dotAbove
  | diaeresis
  | ring
  | doubleAcute
  | caron
  | dotBelow
  | cedilla
  | ogonek
  | slash
deriving DecidableEq, Repr

def Mark.rows : Mark → Text × Text
  | .grave => (
      "AEIOUaeiouÜüNnЕИеиĒēŌōWwÂâĂăÊêÔôƠơƯưYyἀἁἈἉἐἑἘἙἠἡἨἩἰἱἸἹὀὁὈὉὐὑὙὠὡὨὩαεηιουωΑΕΗ᾿ϊΙ῾ϋ" ++
      "Υ¨ΟΩ",
      "ÀÈÌÒÙàèìòùǛǜǸǹЀЍѐѝḔḕṐṑẀẁẦầẰằỀềỒồỜờỪừỲỳἂἃἊἋἒἓἚἛἢἣἪἫἲἳἺἻὂὃὊὋὒὓὛὢὣὪὫὰὲὴὶὸὺὼᾺῈῊ῍ῒῚ῝ῢ" ++
      "Ὺ῭ῸῺ")
  | .acute => (
      "AEIOUYaeiouyCcLlNnRrSsZzÜüGgÅåÆæØø¨ΑΕΗΙΟΥΩϊαεηιϋουωϒГКгкÇçĒēÏïKkMmÕõŌōPpŨũWwÂâĂă" ++
      "ÊêÔôƠơƯưἀἁἈἉἐἑἘἙἠἡἨἩἰἱἸἹὀὁὈὉὐὑὙὠὡὨὩ᾿῾",
      "ÁÉÍÓÚÝáéíóúýĆćĹĺŃńŔŕŚśŹźǗǘǴǵǺǻǼǽǾǿ΅ΆΈΉΊΌΎΏΐάέήίΰόύώϓЃЌѓќḈḉḖḗḮḯḰḱḾḿṌṍṒṓṔṕṸṹẂẃẤấẮắ" ++
      "ẾếỐốỚớỨứἄἅἌἍἔἕἜἝἤἥἬἭἴἵἼἽὄὅὌὍὔὕὝὤὥὬὭ῎῞")
  | .circumflex => (
      "AEIOUaeiouCcGgHhJjSsWwYyZzẠạẸẹỌọ",
      "ÂÊÎÔÛâêîôûĈĉĜĝĤĥĴĵŜŝŴŵŶŷẐẑẬậỆệỘộ")
  | .tilde => (
      "ANOanoIiUuVvÂâĂăEeÊêÔôƠơƯưYy",
      "ÃÑÕãñõĨĩŨũṼṽẪẫẴẵẼẽỄễỖỗỠỡỮữỸỹ")
  | .macron => (
      "AaEeIiOoUuÜüÄäȦȧÆæǪǫÖöÕõȮȯYyИиУуGgḶḷṚṛαΑιΙυΥ",
      "ĀāĒēĪīŌōŪūǕǖǞǟǠǡǢǣǬǭȪȫȬȭȰȱȲȳӢӣӮӯḠḡḸḹṜṝᾱᾹῑῙῡῩ")
  | .breve => (
      "AaEeGgIiOoUuУИиуЖжАаЕеȨȩẠạαΑιΙυΥ",
      "ĂăĔĕĞğĬĭŎŏŬŭЎЙйўӁӂӐӑӖӗḜḝẶặᾰᾸῐῘῠῨ")
  | .dotAbove => (
      "CcEeGgIZzAaOoBbDdFfHhMmNnPpRrSsŚśŠšṢṣTtWwXxYyſ𐗒𐗚",
      "ĊċĖėĠġİŻżȦȧȮȯḂḃḊḋḞḟḢḣṀṁṄṅṖṗṘṙṠṡṤṥṦṧṨṩṪṫẆẇẊẋẎẏẛ𐗉𐗤")
  | .diaeresis => (
      "AEIOUaeiouyYΙΥιυϒЕІеіАаӘәЖжЗзИиОоӨөЭэУуЧчЫыHhÕõŪūWwXxt",
      "ÄËÏÖÜäëïöüÿŸΪΫϊϋϔЁЇёїӒӓӚӛӜӝӞӟӤӥӦӧӪӫӬӭӰӱӴӵӸӹḦḧṎṏṺṻẄẅẌẍẗ")
  | .ring => (
      "AaUuwy",
      "ÅåŮůẘẙ")
  | .doubleAcute => (
      "OoUuУу",
      "ŐőŰűӲӳ")
  | .caron => (
      "CcDdEeLlNnRrSsTtZzAaIiOoUuÜüGgKkƷʒjHh",
      "ČčĎďĚěĽľŇňŘřŠšŤťŽžǍǎǏǐǑǒǓǔǙǚǦǧǨǩǮǯǰȞȟ")
  | .dotBelow => (
      "BbDdHhKkLlMmNnRrSsTtVvWwZzAaEeIiOoƠơUuƯưYy",
      "ḄḅḌḍḤḥḲḳḶḷṂṃṆṇṚṛṢṣṬṭṾṿẈẉẒẓẠạẸẹỊịỌọỢợỤụỰựỴỵ")
  | .cedilla => (
      "CcGgKkLlNnRrSsTtEeDdHh",
      "ÇçĢģĶķĻļŅņŖŗŞşŢţȨȩḐḑḨḩ")
  | .ogonek => (
      "AaEeIiUuOo",
      "ĄąĘęĮįŲųǪǫ")
  | .slash => (
      "<=>←→↔⇐⇒⇔∃∈∋∣∥∼≃≅≈≍≡≤≥≲≳≶≷≺≻≼≽⊂⊃⊆⊇⊑⊒⊢⊨⊩⊫⊲⊳⊴⊵",
      "≮≠≯↚↛↮⇍⇏⇎∄∉∌∤∦≁≄≇≉≭≢≰≱≴≵≸≹⊀⊁⋠⋡⊄⊅⊈⊉⋢⋣⊬⊭⊮⊯⋪⋫⋬⋭")

def Mark.compose (mark : Mark) (c : Char) : Char :=
  match (mark.rows.1.zip mark.rows.2).find? (·.1 == c) with
  | some (_, composed) => composed
  | none => c

end CourseLint.Bibliography
