import LineShell.Unicode.Partition

/-!
# Age

The version of Unicode in which a code point was first assigned. Asked for a version, the property
holds of everything assigned up to it.
-/

namespace LineShell.Partition

/-- The ages of the code points, in runs. The letters of a code are the two numbers of the
version. -/
def ageRuns : List String :=
  ["Bb502Da4Bb30Da8DcEaDa18Ea3Eb11Fa14Bb89Da5Ea2Bb47DaBb10Da5Ea17Bb70Da9DcEa8Eb5Ea3Bb2DaDc13Fb4",
    "Bb2Fb2Zz2BbFa3BbHaZz4Bb7ZzBbZzBb20ZzBb44FbBb7DaDc2BbDaBbDaBbDaBbDaBb18Db2DcEa5Eb4DaBb12Da",
    "Bb66DaBb12DaBb41FbDa2Dc2Da4Bb53Dc2Bb2Dc2Bb2Dc2FaBb28Da2Bb8Eb2Bb2Fa6Dc16Fa4Fb16Fc2Ga2Ha8Zz",
    "Bb38Zz2Bb7LaBb39LaBbDaZz2Ha2GbZzCa17EbCa13Bb10FaBb9CaEb3Zz8Bb27Zz4LaBb5Zz11Ea4GbHaFb5EbBbEa9",
    "Fb5BbGdOaEbBbGaBb26Fb5Bb19Da3Ea3Eb6GaBb14Dc2Bb72Da2Bb5DaBb15DaBb30Ea2Bb10Da5EaDa14ZzDa30Ea3",
    "Da27Zz2Ea3Eb30Fb18Da49DcZz14Fa59Zz2La3Fc46Zz2Fc15ZzGa28Zz2GaZzKa11Zz5Oa31ZzOa2Zz5QaOa8GbHa",
    "Gb11Ha6Ia2OaJa8Na10Oa11LaJa15IaGb27HaFcBb3EaBb53Ga2Bb18FcGaBb5FcGa2Bb25Fb2Ga5HaFc2Fa2EbFa2Ha",
    "Bb3ZzBb8Zz2Bb2Zz2Bb22ZzBb7ZzBbZz3Bb4Zz2BbEaBb7Zz2Bb2Zz2Bb3EbZz8BbZz4Bb2ZzBb5Zz2Bb21FcKa2La",
    "Zz2EaBbEaZzBb6Zz4Bb2Zz2Bb22ZzBb7ZzBb2ZzBb2ZzBb2Zz2BbZzBb5Zz4Bb2Zz2Bb3Zz3FbZz7Bb4ZzBbZz7Bb15",
    "FbLaZz10Bb3ZzBb7EaBbZzBb3ZzBb22ZzBb7ZzBb2ZzBb5Zz2Bb10ZzBb3ZzBb3Zz2BbZz15BbEa3Zz2Bb10GbEaZz7",
    "IaKa6ZzBb3ZzBb8Zz2Bb2Zz2Bb22ZzBb7ZzBb2ZzEaBb4Zz2Bb8FbZz2Bb2Zz2Bb3Zz7NaBb2Zz4Bb2ZzBb3Fb2Zz2",
    "Bb11EaGa6Zz10Bb2ZzBb6Zz3Bb3ZzBb4Zz3Bb2ZzBbZzBb2Zz3Bb2Zz3Bb3Zz3Bb8EbBb3Zz4Bb5Zz3Bb3ZzBb4Zz2Fb",
    "Zz6BbZz14EbBb12Ea8Zz5HaBb3LaBb8ZzBb3ZzBb23ZzBb10HaBb5Zz2OaFbBb7ZzBb3ZzBb4Zz7Bb2ZzFb2IaZz2Oa",
    "Zz2Bb2Fb2Zz2Bb10Zz7MaFb8JaHaBb2LaBb8ZzBb3ZzBb23ZzBb10ZzBb5Zz2Ea2Bb7ZzBb3ZzBb4Zz7Bb2Zz6OaBbZz",
    "Bb2Fa2Zz2Bb10ZzFa2PaZz12KaHaBb2NaBb8ZzBb3ZzBb23GaBb16GaKa2FbBb6FbZzBb3ZzBb4GaJaZz4Ja3BbJa7Ia",
    "Bb2Fb2Zz2Bb10Fb6Ja3Fb7ZzNaDa2ZzDa18Zz3Da24ZzDa9ZzDaZz2Da7Zz3DaZz4Da6ZzDaZzDa8Zz6Ha10Zz2Da3",
    "Zz12Bb58Zz4Bb29Zz37Bb2ZzBbZzMaBb2MaBbZzMaBbMa6Bb4MaBb7MaBb3ZzBbZzBbMa2Bb2MaBb13MaBb3Zz2Bb5Zz",
    "BbZzBb6PaZzBb10Zz2Bb2Gb2Zz32Ca72ZzCa33DaFb2Zz4Ca27Ga4Ca6DaCaZzCa21Da3Ca7DaCaDa3ZzDa15ZzFbDa",
    "Eb2Fb3Fc4Ga2Zz37Da34FbDa5FbDa2FbDa7Fb3Da4Fb6Da26Fb64Fc4Fb2Bb38ZzGbZz5GbZz2Bb39Dc2Eb2BbEbGb3",
    "Bb90Fc5Bb68Fc5Bb82Fc6Da7EbDa63EbDaZzDa4Zz2Da7ZzDaZzDa4Zz2Da39EbDaZzDa4Zz2Da31EbDaZzDa4Zz2Da7",
    "ZzDaZzDa4Zz2Da7EbDa7ZzDa23EbDa31EbDaZzDa4Zz2Da7EbDa39EbDa19Zz2Ga2Eb2Da28Zz3Eb26Zz6Da85IaZz2",
    "Ia6Zz2FcDa630Fc9Da29Zz3Da81Ha8Zz7Dc13OaDc7OaZz9OaDc23Zz9Dc20Zz12Dc13ZzDc3ZzDc2Zz12Da93EaZz2",
    "Da10Zz6Ea10Zz6Da15OaDa10Zz6Da88LaZz7Da42FbZz5Fc70Zz10Ea29Ha2ZzEa12Zz4Ea12Zz4EaZz3Ea42Zz2Ea5",
    "Zz11Eb42Fc2Zz4Eb26Zz6Eb10FcZz3Eb2Ea32Eb28Zz2Eb2Fc63ZzFc29Zz2Fc11Zz6Fc10Zz6Fc14Zz2Ha15Na2Oa14",
    "Zz49Fa76OaZzQa2Fa45Oa2QaFb43Gb3Fb12Gb6Ga52Zz8Ga4Fb56Zz3Fb15Zz3Fb51Ja9Qa2Zz5La43Zz2La3Gb8Zz8",
    "Fc35Gb4KaHa2MaZz5Ea108Eb88Fa7Fb28Ha15Ka4OaJaGaFcFa2Bb155CaFb4Bb90Fb6Bb22Zz2Bb6Zz2Bb38Zz2Bb6",
    "Zz2Bb8ZzBbZzBbZzBbZzBb31Zz2Bb53ZzBb15ZzBb14Zz2Bb6ZzBb19Zz2Bb3ZzBb9ZzBb47DaBb23DcDa6Dc5Ea2Eb2",
    "DcEb7Dc5FbZzGd4Bb7DcZz2Bb27ZzEb5Ga8Zz3Bb11CaCbDa3Dc2Eb4Fc3GaGcHa3IaKaOaZz15Bb18Da2Dc7EbFa4Fb",
    "Zz15Bb57Da2EaEbDc15EbFa2FbFc3Bb48DaFaFb4FcIa2Zz4Bb91Da9Dc12Bb242Dc14BbDaBb121DaDcDa30Dc52Ea2",
    "Eb11Fa12FcGa11Ha7Ja4KaBb37Da2Qa3Zz22Bb11Zz21Bb139Dc20EaBb150Dc10Bb80Da8Dc8Bb20Ea2Dc2EbDaBb86",
    "Da2Dc12Eb2Dc10Ea8Eb11FbFc2Ea2Eb16FaFb10Fc3Fb4Fc10GaFc19GaFcGa4Fc24HaBb4GaBb4Ga2Bb28GaBb35Ga",
    "BbGaBb4Ga3BbFcBb7Ga2Bb7Dc14Bb31Ga3Bb24GaBb14GaEb7Fa4GbFbGbGa2Dc28Fb4Dc16Da256Dc512Ea14Eb6Fa7",
    "Fb5Fa4Fb41Ha3Fb5Fc5Ha26Zz2Ha32ZzNaHa34La3Ha12MaHa8KaLa25Ia4La15MaEb47OaEb47OaFa13Fb3FcFb3Fa4",
    "Fb6Fc2Eb107Fc7Gb2Zz5Eb45ZzGbZz5GbZz2Eb54Gb2Zz7EbGaZz14GaEb23Zz9Eb7ZzEb7ZzEb7ZzEb7ZzEb7ZzEb7",
    "ZzEb7ZzEb7ZzFb32Eb24Fb4Eb2Fb19FcGb10Ha7Ja2Ka5La5MaNa3Oa11Zz34Da26ZzDa89Zz12Da214Zz26Da12Pb4",
    "Bb56Da3Dc3DaBbZzBb84Dc2Zz2Bb6Dc2Bb94DcZz5Bb40FbKaLaZzBb94ZzBb16Da24Ga3Na5Eb16Fb20Qa2Zz9Pb",
    "Dc16Bb29Ea2ZzBb36Fc12EaDc15Bb28Ea2EbBb50Dc15Bb12Ea4Bb47MbBb119Ea4Bb99Ea2Bb31EaDa6582Na10Ea64",
    "Bb20902Eb22Fb8Fc8GbIa9Ka21La5Na13Oa3Da1165Zz3Da18Dc2Da16DcDa12DcDa3DcDaZz9Fc48Fb300Zz20Fb32",
    "Ga2Fb18Gb8Fb28Ha6IaGbFc88Zz8Eb23Fa4Fb5Fa2Fb107Ga2IaGa2Gb2Ha12Ga10GbHa3JaLaHa2Ia6La2Ma6Oa2Ma5",
    "Na4Qa3Zz2Oa2ZzOaZzOa5Qa3Zz21Oa3Na2HaGb2GaFb5Eb44NaZz3Fc10Zz6Fa56Zz8Fb69JaZz8Fb12Zz6Fc28Ia2",
    "La2Fb84Zz11FbFc29Zz3Fc78ZzFc11Zz4Fc2Ha31ZzFb55Zz9Fb14Zz2Fb10Zz2Fb4Fc28Ha4Fc67Zz24Fc5Gb23Zz10",
    "Ga6Zz2Ga6Zz2Ga6Zz9Ga7ZzGa7ZzHa48Ia4Ha2Ma2Na4Zz4Ia80Fc46Zz2Fc10Zz6Ca11172Zz12Fc23Zz4Fc49Zz4",
    "Ca2048Bb6702Gb2Dc59Fc3Zz2Eb106Zz38Bb7Zz12Bb5Zz5DaBb25ZzBb5ZzBbZzBb2ZzBb2ZzBb108Ga16OaZz16",
    "Bb365Oa16Bb64Zz2Bb54Zz7OaDb32Bb12DcEaOa2Dc16Eb10Zz6Bb4Fb3Ha7Ia2Bb21Dc2Ea2Bb10ZzBb19ZzBb4Zz4",
    "Bb3DcBbZzBb135Zz2BbZzBb94Dc2Bb94Zz3Bb6Zz2Bb6Zz2Bb6Zz2Bb3Zz3Bb7ZzBb7Zz10Da3CbBb3Ea12ZzEa26Zz",
    "Ea19ZzEa2ZzEa15Zz2Ea14Zz34Ea123Zz5Ea3Zz4Ea45Zz3Ea9Eb75Ha2Ja2ZzFb12NaZz3HaZz47Fb46Zz130Fb29",
    "Zz3Fb49Zz15Ha28Zz4Db31HaDb4Zz9Ka3Db27Zz5Ha43Zz5Ea30ZzEaEb36Zz4Eb14Zz42Db38Ea2Db38Ea80Zz2Ea10",
    "Zz6Ja36Zz4Ja36Zz4Ha40Zz8Ha52Zz11HaOa11ZzOa15ZzOa7ZzOa2ZzOa11ZzOa15ZzOa7ZzOa2Zz3Qa52Zz12Ha311",
    "Zz9Ha22Zz10Ha8Zz24Oa6ZzOa42ZzOa9Zz69Ea6Zz2EaZzEa44ZzEa2Zz3EaZz2EaFc22ZzFc9Ha63Zz8Ha9Zz48Ia19",
    "ZzIa2Zz5Ia5Fa26Fc2Zz3FaFb26Zz5FbZz64Gb56Zz4Ia2Gb2Ia16Zz2Ia46Eb4ZzEb2Zz5Eb8ZzEb3ZzEb27La2Zz2",
    "Eb3Zz4Eb9LaZz7Eb9Zz7Fc32Ha32Zz32Ha39Zz4Ha12Zz9Fc54Zz3Fc29Zz2Fc27Zz5Fc8Ha18Zz7Ha4Zz12Ha7Zz80",
    "Fc73Zz55Ia51Zz13Ia51Zz7Ia6La40Zz8La10Zz6Qa38Zz3Qa29Zz8Qa2Zz208Fc31ZzNa42ZzNa3Zz2Na2Zz16Qa3",
    "Zz55QaPa3La40Zz8La42Zz22Oa26Zz38Na28Zz20Ma23Zz9Ga78Zz4Ga30Oa6Zz9HaFc66OaZz10LaZz2Gb25Zz7Gb10",
    "Zz6Gb53ZzGb14La3NaZz8Ha39Zz9Gb73Ia4HaNa2Gb10HaIa5ZzHa20Zz11Ha18ZzHa43JaPa3Zz62Ia7ZzIaZzIa4Zz",
    "Ia15ZzIa11Zz6Ha59Zz5Ha10Zz6IaHa3ZzHa8Zz2Ha2Zz2Ha22ZzHa7ZzHa2ZzHa5ZzLaHa9Zz2Ha2Zz2Ha3Zz2IaZz6",
    "HaZz5Ha7Zz2Ha7Zz3Ha5Zz11Qa10ZzQaZz2QaZzQa38ZzQa10ZzQaZz2QaZzQa4ZzQa10ZzQa2Zz8Qa2Zz29Ja90NaJa",
    "ZzJaLaMaNa2Zz30Ha72Zz8Ha10Zz166Ha54Zz2Ha18Ia20Zz34Ha69Zz11Ha10Zz6Ja13Zz19Gb56MaOaZz6Gb10Zz6",
    "Qa20Zz28Ia26LaZz2Ia15Zz4Ia16Oa7Zz185La60Zz100Ha83Zz12HaNa7Zz2NaZz2Na8ZzNa2ZzNa30ZzNa2Zz2Na12",
    "Zz9Na10Zz70Ma8Zz2Ma46Zz2Ma11Zz27Ka72Zz8Ka52Ma2Ka23LaKa5Zz13Oa16Ha57Zz7Pa10Zz182Qa34Zz14Qa10",
    "Zz6Ja9ZzJa45ZzJa14Zz10Ja29Zz3Ja32Zz2Ja22ZzJa14Zz73Ka7ZzKa2ZzKa44Zz3KaZzKa2ZzKa9Zz8Ka10Zz6La6",
    "ZzLa2ZzLa37ZzLa2ZzLa6Zz7La10Zz310La25Zz7Pa17ZzPa41Zz3Pa28QaZz85NaZz15Ma50Zz13MaFa879Ha42Ia",
    "Zz102Fa99Ha12ZzFa4HaZz11Ia196Zz2636Oa99Zz13Fc1071PaMa9Pa29Zz10Qa3995Zz5Ia583Zz6841Qa58Zz1734",
    "Ga569Zz7Ha31ZzHa10Zz4Ha2Oa79ZzOa10Zz6Ha30Zz2Ha6Zz10Ha70Zz10Ha10ZzHa7ZzHa21Zz5Ha19Zz432Qa58",
    "Zz198La91Zz101Gb69Ma6Zz4MaGb47Ma9Zz7Gb17Zz64JaKaMa2NaZz11Na2Zz14Ja6125La5Ma6Zz8Ja755Na483",
    "Zz41QaNa9Zz8935Oa4ZzOa7ZzOa2ZzGa2Ka285Oa4Zz15PaZz29Ma3Zz2PaZz14Ma4Zz8Ka396Zz2308Ha107Zz5Ha13",
    "Zz3Ha9Zz7Ha10Zz2Ha8Zz3932Qa250Zz6Qa436Zz76Oa46Zz2Oa23Zz9Oa116Zz60Db246Zz10Db39Zz2FbDb180Ia11",
    "Oa2Zz21Eb70Zz122Pa20Zz12La20Zz12Ea87Zz9Fa18La7Zz135Db85ZzDb71ZzDb2Zz2DbZz2Db2Zz2Db4ZzDb12Zz",
    "DbZzDb4EaDb2ZzDb65ZzDb4Zz2Db8ZzDb7ZzDb28ZzDb4ZzDb5ZzDbZz3Db7ZzDb338Eb2Zz2Db290Fa2Zz2Db50",
    "Ia652Zz15Ia5ZzIa15Zz1104Oa31Zz6Pa6Zz213Ja7ZzJa17Zz2Ja7ZzJa2ZzJa5Zz5Pa62Zz33PaZz112Ma45Zz3",
    "Ma14Zz2Ma10Zz4Ma2Zz320Oa31Zz17Ma58Zz5MaZz464Pa42Zz214Qa43Zz4QaZz480Oa7ZzOa4ZzOa2ZzOa15Zz",
    "Ha197Zz2Ha16Zz41Ja75MaZz4Ja10Zz4Ja2Zz785La68Zz76Ma61Zz194Gb4ZzGb27ZzGb2ZzGbZz2GbZzGb10ZzGb4",
    "ZzGbZzGbZz6GbZz4GbZzGbZzGbZzGb3ZzGb2ZzGbZz2GbZzGbZzGbZzGbZzGbZzGb2ZzGbZz2Gb4ZzGb7ZzGb4ZzGb4",
    "ZzGbZzGb10ZzGb17Zz5Gb3ZzGb5ZzGb17Zz52Gb2Zz270Fb44Zz4Fb100Zz12Ga15Zz2Ga14HaZzGa15ZzGa15Ha22",
    "Zz10Fc11Ha2Na3Fc31LaGaFcGa11FcGaFcGa2FcGa3FcGa3Fc5Ga8FcGa7FcGa10Gb2MaNa3Ga9FcGaFc2Ga2FcGa10",
    "Fc4Ga2FcGa10Ja18NaZz56Ga26FcGa2Zz13Fc34Ga9JaZz4Fc9Zz7Ga2Zz14Ka6Zz154Ga33Ha12Ia3Ga6HaGa70Ha",
    "Ia2Ga20Ha12Ga37HaGa5Ha4Ia5Ha12Ga17Ha7Ia8Ga63HaGaHaGa182HaGa4Ha2IaGa62Ha2Gb4Ha7Ia5Ga24Ha18Ja",
    "Ha41JaHa86Ga5GbGa16GbGa3GbGaGbGaGbGaGbGa3GbGa6Gb2Ga4GbGaGb2Ga4GbGa12Ha2Ia2Ga11Ha48Ga70Ha10Ia",
    "Ja2Ka2MaNa2Zz4PaOa3Ha13Zz3Ha4Ja3Ka2LaMaNa2Zz3Ga116Pa3Zz4Pa5Ha85La4PaZz6Ma12Zz4OaZz15Ha12Zz4",
    "Ha56Zz8Ha10Zz6Ha40Zz8Ha30Zz2Na2Qa10Zz4Qa2Zz62Ka12NaMa3Ia9Ja6KaJa8Ka8JaKa2Ja12MaJa12KaLa3Ja15",
    "Ka13La5MaNaLa4Na2OaLaMaLa4Ia5Ja13Ka6La11Na2Ma6Na3Ma2La10Ma6IaLa2Ma8NaOaMa3Ka23La25Ma84Zz12",
    "La14Zz2Ma4NaPa3Ma3Oa2Zz3Ma3Na4Pa2QaZz5QaMa6Na19Oa4Pa3Na7Oa4Pa3QaPaNa3Oa3QaZz7Pa2Na7Oa3Pa2Qa",
    "Zz2QaOa8PaQaZz6Oa7Pa2Zz7Na147ZzNa55Qa37Na10Zz1028Ca2Db42711Na7Oa2Zz32Fc4149Oa4PaZz6Ga222Zz2",
    "Ia5762Zz14Ka7473Zz15Pb622Zz2466Db542Zz1504Ca2Na4939Zz5Pa4192Zz56398Ca2Zz65534Ca2Zz65534Ca2",
    "Zz65534Ca2Zz65534Ca2Zz65534Ca2Zz65534Ca2Zz65534Ca2Zz65534Ca2Zz65534Ca2Zz65534Ca2ZzDbZz30Db96",
    "Zz128Ea240Zz65038Ca131074"]

/-- The versions in order, and the mark of code points that are not assigned. -/
def ageValues : List (String × List String) :=
  [("Bb", ["1.1", "V1_1"]), ("Ca", ["2.0", "V2_0"]), ("Cb", ["2.1", "V2_1"]),
    ("Da", ["3.0", "V3_0"]), ("Db", ["3.1", "V3_1"]), ("Dc", ["3.2", "V3_2"]),
    ("Ea", ["4.0", "V4_0"]), ("Eb", ["4.1", "V4_1"]), ("Fa", ["5.0", "V5_0"]),
    ("Fb", ["5.1", "V5_1"]), ("Fc", ["5.2", "V5_2"]), ("Ga", ["6.0", "V6_0"]),
    ("Gb", ["6.1", "V6_1"]), ("Gc", ["6.2", "V6_2"]), ("Gd", ["6.3", "V6_3"]),
    ("Ha", ["7.0", "V7_0"]), ("Ia", ["8.0", "V8_0"]), ("Ja", ["9.0", "V9_0"]),
    ("Ka", ["10.0", "V10_0"]), ("La", ["11.0", "V11_0"]), ("Ma", ["12.0", "V12_0"]),
    ("Mb", ["12.1", "V12_1"]), ("Na", ["13.0", "V13_0"]), ("Oa", ["14.0", "V14_0"]),
    ("Pa", ["15.0", "V15_0"]), ("Pb", ["15.1", "V15_1"]), ("Qa", ["16.0", "V16_0"]),
    ("Zz", ["NA", "Unassigned"])]

/-- The property `Age`, for one version by itself. -/
def age : Partition := ⟨["age"], ageValues, ["Zz"], ageRuns⟩

/-- The characters that were assigned in the version of the given code or before. -/
def assignedBy (code : Text) : CharSet :=
  let upTo := (ageValues.map fun v ↦ v.1.toList).takeWhile (· != code) ++ [code]
  Table.select (fun c ↦ upTo.contains c) age.runs

end LineShell.Partition
