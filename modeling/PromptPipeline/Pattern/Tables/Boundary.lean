/-!
The classes of the Unicode standard, version 16, that the rules for the boundaries of
grapheme clusters, words and sentences are written with, as bounds. A code point in none of
the classes of a rule is of its class Other, which has no table.
-/
namespace PromptPipeline.Pattern.Tables

set_option maxRecDepth 100000

/-- The names of the grapheme cluster classes, normalized, and their long names. -/
def graphemeBreakNames : List (String × String) := [
  ("cr", "CR"),
  ("cn", "Control"),
  ("control", "Control"),
  ("ex", "Extend"),
  ("extend", "Extend"),
  ("l", "L"),
  ("lf", "LF"),
  ("lv", "LV"),
  ("lvt", "LVT"),
  ("pp", "Prepend"),
  ("prepend", "Prepend"),
  ("regionalindicator", "Regional_Indicator"),
  ("ri", "Regional_Indicator"),
  ("sm", "SpacingMark"),
  ("spacingmark", "SpacingMark"),
  ("t", "T"),
  ("v", "V"),
  ("zwj", "ZWJ")]

/-- The bounds of each grapheme cluster class. -/
def graphemeBreakBounds : List (String × Array Nat) := [
  ("Control",
    #[0,10,11,13,14,32,127,160,173,174,1564,1565,6158,6159,8203,8204,8206,8208,8232,8239,8288,8304,
    65279,65280,65520,65532,78896,78912,113824,113828,119155,119163,917504,917536,917632,917760,
    918000,921600]),
  ("CR",
    #[13,14]),
  ("Extend",
    #[768,880,1155,1162,1425,1470,1471,1472,1473,1475,1476,1478,1479,1480,1552,1563,1611,1632,1648,
    1649,1750,1757,1759,1765,1767,1769,1770,1774,1809,1810,1840,1867,1958,1969,2027,2036,2045,2046,
    2070,2074,2075,2084,2085,2088,2089,2094,2137,2140,2199,2208,2250,2274,2275,2307,2362,2363,2364,
    2365,2369,2377,2381,2382,2385,2392,2402,2404,2433,2434,2492,2493,2494,2495,2497,2501,2509,2510,
    2519,2520,2530,2532,2558,2559,2561,2563,2620,2621,2625,2627,2631,2633,2635,2638,2641,2642,2672,
    2674,2677,2678,2689,2691,2748,2749,2753,2758,2759,2761,2765,2766,2786,2788,2810,2816,2817,2818,
    2876,2877,2878,2880,2881,2885,2893,2894,2901,2904,2914,2916,2946,2947,3006,3007,3008,3009,3021,
    3022,3031,3032,3072,3073,3076,3077,3132,3133,3134,3137,3142,3145,3146,3150,3157,3159,3170,3172,
    3201,3202,3260,3261,3263,3265,3266,3267,3270,3273,3274,3278,3285,3287,3298,3300,3328,3330,3387,
    3389,3390,3391,3393,3397,3405,3406,3415,3416,3426,3428,3457,3458,3530,3531,3535,3536,3538,3541,
    3542,3543,3551,3552,3633,3634,3636,3643,3655,3663,3761,3762,3764,3773,3784,3791,3864,3866,3893,
    3894,3895,3896,3897,3898,3953,3967,3968,3973,3974,3976,3981,3992,3993,4029,4038,4039,4141,4145,
    4146,4152,4153,4155,4157,4159,4184,4186,4190,4193,4209,4213,4226,4227,4229,4231,4237,4238,4253,
    4254,4957,4960,5906,5910,5938,5941,5970,5972,6002,6004,6068,6070,6071,6078,6086,6087,6089,6100,
    6109,6110,6155,6158,6159,6160,6277,6279,6313,6314,6432,6435,6439,6441,6450,6451,6457,6460,6679,
    6681,6683,6684,6742,6743,6744,6751,6752,6753,6754,6755,6757,6765,6771,6781,6783,6784,6832,6863,
    6912,6916,6964,6974,6978,6981,7019,7028,7040,7042,7074,7078,7080,7086,7142,7143,7144,7146,7149,
    7150,7151,7156,7212,7220,7222,7224,7376,7379,7380,7393,7394,7401,7405,7406,7412,7413,7416,7418,
    7616,7680,8204,8205,8400,8433,11503,11506,11647,11648,11744,11776,12330,12336,12441,12443,42607,
    42611,42612,42622,42654,42656,42736,42738,43010,43011,43014,43015,43019,43020,43045,43047,43052,
    43053,43204,43206,43232,43250,43263,43264,43302,43310,43335,43346,43347,43348,43392,43395,43443,
    43444,43446,43450,43452,43454,43456,43457,43493,43494,43561,43567,43569,43571,43573,43575,43587,
    43588,43596,43597,43644,43645,43696,43697,43698,43701,43703,43705,43710,43712,43713,43714,43756,
    43758,43766,43767,44005,44006,44008,44009,44013,44014,64286,64287,65024,65040,65056,65072,65438,
    65440,66045,66046,66272,66273,66422,66427,68097,68100,68101,68103,68108,68112,68152,68155,68159,
    68160,68325,68327,68900,68904,68969,68974,69291,69293,69372,69376,69446,69457,69506,69510,69633,
    69634,69688,69703,69744,69745,69747,69749,69759,69762,69811,69815,69817,69819,69826,69827,69888,
    69891,69927,69932,69933,69941,70003,70004,70016,70018,70070,70079,70080,70081,70089,70093,70095,
    70096,70191,70194,70196,70200,70206,70207,70209,70210,70367,70368,70371,70379,70400,70402,70459,
    70461,70462,70463,70464,70465,70477,70478,70487,70488,70502,70509,70512,70517,70584,70585,70587,
    70593,70594,70595,70597,70598,70599,70602,70606,70609,70610,70611,70625,70627,70712,70720,70722,
    70725,70726,70727,70750,70751,70832,70833,70835,70841,70842,70843,70845,70846,70847,70849,70850,
    70852,71087,71088,71090,71094,71100,71102,71103,71105,71132,71134,71219,71227,71229,71230,71231,
    71233,71339,71340,71341,71342,71344,71352,71453,71454,71455,71456,71458,71462,71463,71468,71727,
    71736,71737,71739,71984,71985,71995,71999,72003,72004,72148,72152,72154,72156,72160,72161,72193,
    72203,72243,72249,72251,72255,72263,72264,72273,72279,72281,72284,72330,72343,72344,72346,72752,
    72759,72760,72766,72767,72768,72850,72872,72874,72881,72882,72884,72885,72887,73009,73015,73018,
    73019,73020,73022,73023,73030,73031,73032,73104,73106,73109,73110,73111,73112,73459,73461,73472,
    73474,73526,73531,73536,73539,73562,73563,78912,78913,78919,78934,90398,90410,90413,90416,92912,
    92917,92976,92983,94031,94032,94095,94099,94180,94181,94192,94194,113821,113823,118528,118574,
    118576,118599,119141,119146,119149,119155,119163,119171,119173,119180,119210,119214,119362,
    119365,121344,121399,121403,121453,121461,121462,121476,121477,121499,121504,121505,121520,
    122880,122887,122888,122905,122907,122914,122915,122917,122918,122923,123023,123024,123184,
    123191,123566,123567,123628,123632,124140,124144,124398,124400,125136,125143,125252,125259,
    127995,128000,917536,917632,917760,918000]),
  ("L",
    #[4352,4448,43360,43389]),
  ("LF",
    #[10,11]),
  ("LV",
    #[44032,44033,44060,44061,44088,44089,44116,44117,44144,44145,44172,44173,44200,44201,44228,
    44229,44256,44257,44284,44285,44312,44313,44340,44341,44368,44369,44396,44397,44424,44425,44452,
    44453,44480,44481,44508,44509,44536,44537,44564,44565,44592,44593,44620,44621,44648,44649,44676,
    44677,44704,44705,44732,44733,44760,44761,44788,44789,44816,44817,44844,44845,44872,44873,44900,
    44901,44928,44929,44956,44957,44984,44985,45012,45013,45040,45041,45068,45069,45096,45097,45124,
    45125,45152,45153,45180,45181,45208,45209,45236,45237,45264,45265,45292,45293,45320,45321,45348,
    45349,45376,45377,45404,45405,45432,45433,45460,45461,45488,45489,45516,45517,45544,45545,45572,
    45573,45600,45601,45628,45629,45656,45657,45684,45685,45712,45713,45740,45741,45768,45769,45796,
    45797,45824,45825,45852,45853,45880,45881,45908,45909,45936,45937,45964,45965,45992,45993,46020,
    46021,46048,46049,46076,46077,46104,46105,46132,46133,46160,46161,46188,46189,46216,46217,46244,
    46245,46272,46273,46300,46301,46328,46329,46356,46357,46384,46385,46412,46413,46440,46441,46468,
    46469,46496,46497,46524,46525,46552,46553,46580,46581,46608,46609,46636,46637,46664,46665,46692,
    46693,46720,46721,46748,46749,46776,46777,46804,46805,46832,46833,46860,46861,46888,46889,46916,
    46917,46944,46945,46972,46973,47000,47001,47028,47029,47056,47057,47084,47085,47112,47113,47140,
    47141,47168,47169,47196,47197,47224,47225,47252,47253,47280,47281,47308,47309,47336,47337,47364,
    47365,47392,47393,47420,47421,47448,47449,47476,47477,47504,47505,47532,47533,47560,47561,47588,
    47589,47616,47617,47644,47645,47672,47673,47700,47701,47728,47729,47756,47757,47784,47785,47812,
    47813,47840,47841,47868,47869,47896,47897,47924,47925,47952,47953,47980,47981,48008,48009,48036,
    48037,48064,48065,48092,48093,48120,48121,48148,48149,48176,48177,48204,48205,48232,48233,48260,
    48261,48288,48289,48316,48317,48344,48345,48372,48373,48400,48401,48428,48429,48456,48457,48484,
    48485,48512,48513,48540,48541,48568,48569,48596,48597,48624,48625,48652,48653,48680,48681,48708,
    48709,48736,48737,48764,48765,48792,48793,48820,48821,48848,48849,48876,48877,48904,48905,48932,
    48933,48960,48961,48988,48989,49016,49017,49044,49045,49072,49073,49100,49101,49128,49129,49156,
    49157,49184,49185,49212,49213,49240,49241,49268,49269,49296,49297,49324,49325,49352,49353,49380,
    49381,49408,49409,49436,49437,49464,49465,49492,49493,49520,49521,49548,49549,49576,49577,49604,
    49605,49632,49633,49660,49661,49688,49689,49716,49717,49744,49745,49772,49773,49800,49801,49828,
    49829,49856,49857,49884,49885,49912,49913,49940,49941,49968,49969,49996,49997,50024,50025,50052,
    50053,50080,50081,50108,50109,50136,50137,50164,50165,50192,50193,50220,50221,50248,50249,50276,
    50277,50304,50305,50332,50333,50360,50361,50388,50389,50416,50417,50444,50445,50472,50473,50500,
    50501,50528,50529,50556,50557,50584,50585,50612,50613,50640,50641,50668,50669,50696,50697,50724,
    50725,50752,50753,50780,50781,50808,50809,50836,50837,50864,50865,50892,50893,50920,50921,50948,
    50949,50976,50977,51004,51005,51032,51033,51060,51061,51088,51089,51116,51117,51144,51145,51172,
    51173,51200,51201,51228,51229,51256,51257,51284,51285,51312,51313,51340,51341,51368,51369,51396,
    51397,51424,51425,51452,51453,51480,51481,51508,51509,51536,51537,51564,51565,51592,51593,51620,
    51621,51648,51649,51676,51677,51704,51705,51732,51733,51760,51761,51788,51789,51816,51817,51844,
    51845,51872,51873,51900,51901,51928,51929,51956,51957,51984,51985,52012,52013,52040,52041,52068,
    52069,52096,52097,52124,52125,52152,52153,52180,52181,52208,52209,52236,52237,52264,52265,52292,
    52293,52320,52321,52348,52349,52376,52377,52404,52405,52432,52433,52460,52461,52488,52489,52516,
    52517,52544,52545,52572,52573,52600,52601,52628,52629,52656,52657,52684,52685,52712,52713,52740,
    52741,52768,52769,52796,52797,52824,52825,52852,52853,52880,52881,52908,52909,52936,52937,52964,
    52965,52992,52993,53020,53021,53048,53049,53076,53077,53104,53105,53132,53133,53160,53161,53188,
    53189,53216,53217,53244,53245,53272,53273,53300,53301,53328,53329,53356,53357,53384,53385,53412,
    53413,53440,53441,53468,53469,53496,53497,53524,53525,53552,53553,53580,53581,53608,53609,53636,
    53637,53664,53665,53692,53693,53720,53721,53748,53749,53776,53777,53804,53805,53832,53833,53860,
    53861,53888,53889,53916,53917,53944,53945,53972,53973,54000,54001,54028,54029,54056,54057,54084,
    54085,54112,54113,54140,54141,54168,54169,54196,54197,54224,54225,54252,54253,54280,54281,54308,
    54309,54336,54337,54364,54365,54392,54393,54420,54421,54448,54449,54476,54477,54504,54505,54532,
    54533,54560,54561,54588,54589,54616,54617,54644,54645,54672,54673,54700,54701,54728,54729,54756,
    54757,54784,54785,54812,54813,54840,54841,54868,54869,54896,54897,54924,54925,54952,54953,54980,
    54981,55008,55009,55036,55037,55064,55065,55092,55093,55120,55121,55148,55149,55176,55177]),
  ("LVT",
    #[44033,44060,44061,44088,44089,44116,44117,44144,44145,44172,44173,44200,44201,44228,44229,
    44256,44257,44284,44285,44312,44313,44340,44341,44368,44369,44396,44397,44424,44425,44452,44453,
    44480,44481,44508,44509,44536,44537,44564,44565,44592,44593,44620,44621,44648,44649,44676,44677,
    44704,44705,44732,44733,44760,44761,44788,44789,44816,44817,44844,44845,44872,44873,44900,44901,
    44928,44929,44956,44957,44984,44985,45012,45013,45040,45041,45068,45069,45096,45097,45124,45125,
    45152,45153,45180,45181,45208,45209,45236,45237,45264,45265,45292,45293,45320,45321,45348,45349,
    45376,45377,45404,45405,45432,45433,45460,45461,45488,45489,45516,45517,45544,45545,45572,45573,
    45600,45601,45628,45629,45656,45657,45684,45685,45712,45713,45740,45741,45768,45769,45796,45797,
    45824,45825,45852,45853,45880,45881,45908,45909,45936,45937,45964,45965,45992,45993,46020,46021,
    46048,46049,46076,46077,46104,46105,46132,46133,46160,46161,46188,46189,46216,46217,46244,46245,
    46272,46273,46300,46301,46328,46329,46356,46357,46384,46385,46412,46413,46440,46441,46468,46469,
    46496,46497,46524,46525,46552,46553,46580,46581,46608,46609,46636,46637,46664,46665,46692,46693,
    46720,46721,46748,46749,46776,46777,46804,46805,46832,46833,46860,46861,46888,46889,46916,46917,
    46944,46945,46972,46973,47000,47001,47028,47029,47056,47057,47084,47085,47112,47113,47140,47141,
    47168,47169,47196,47197,47224,47225,47252,47253,47280,47281,47308,47309,47336,47337,47364,47365,
    47392,47393,47420,47421,47448,47449,47476,47477,47504,47505,47532,47533,47560,47561,47588,47589,
    47616,47617,47644,47645,47672,47673,47700,47701,47728,47729,47756,47757,47784,47785,47812,47813,
    47840,47841,47868,47869,47896,47897,47924,47925,47952,47953,47980,47981,48008,48009,48036,48037,
    48064,48065,48092,48093,48120,48121,48148,48149,48176,48177,48204,48205,48232,48233,48260,48261,
    48288,48289,48316,48317,48344,48345,48372,48373,48400,48401,48428,48429,48456,48457,48484,48485,
    48512,48513,48540,48541,48568,48569,48596,48597,48624,48625,48652,48653,48680,48681,48708,48709,
    48736,48737,48764,48765,48792,48793,48820,48821,48848,48849,48876,48877,48904,48905,48932,48933,
    48960,48961,48988,48989,49016,49017,49044,49045,49072,49073,49100,49101,49128,49129,49156,49157,
    49184,49185,49212,49213,49240,49241,49268,49269,49296,49297,49324,49325,49352,49353,49380,49381,
    49408,49409,49436,49437,49464,49465,49492,49493,49520,49521,49548,49549,49576,49577,49604,49605,
    49632,49633,49660,49661,49688,49689,49716,49717,49744,49745,49772,49773,49800,49801,49828,49829,
    49856,49857,49884,49885,49912,49913,49940,49941,49968,49969,49996,49997,50024,50025,50052,50053,
    50080,50081,50108,50109,50136,50137,50164,50165,50192,50193,50220,50221,50248,50249,50276,50277,
    50304,50305,50332,50333,50360,50361,50388,50389,50416,50417,50444,50445,50472,50473,50500,50501,
    50528,50529,50556,50557,50584,50585,50612,50613,50640,50641,50668,50669,50696,50697,50724,50725,
    50752,50753,50780,50781,50808,50809,50836,50837,50864,50865,50892,50893,50920,50921,50948,50949,
    50976,50977,51004,51005,51032,51033,51060,51061,51088,51089,51116,51117,51144,51145,51172,51173,
    51200,51201,51228,51229,51256,51257,51284,51285,51312,51313,51340,51341,51368,51369,51396,51397,
    51424,51425,51452,51453,51480,51481,51508,51509,51536,51537,51564,51565,51592,51593,51620,51621,
    51648,51649,51676,51677,51704,51705,51732,51733,51760,51761,51788,51789,51816,51817,51844,51845,
    51872,51873,51900,51901,51928,51929,51956,51957,51984,51985,52012,52013,52040,52041,52068,52069,
    52096,52097,52124,52125,52152,52153,52180,52181,52208,52209,52236,52237,52264,52265,52292,52293,
    52320,52321,52348,52349,52376,52377,52404,52405,52432,52433,52460,52461,52488,52489,52516,52517,
    52544,52545,52572,52573,52600,52601,52628,52629,52656,52657,52684,52685,52712,52713,52740,52741,
    52768,52769,52796,52797,52824,52825,52852,52853,52880,52881,52908,52909,52936,52937,52964,52965,
    52992,52993,53020,53021,53048,53049,53076,53077,53104,53105,53132,53133,53160,53161,53188,53189,
    53216,53217,53244,53245,53272,53273,53300,53301,53328,53329,53356,53357,53384,53385,53412,53413,
    53440,53441,53468,53469,53496,53497,53524,53525,53552,53553,53580,53581,53608,53609,53636,53637,
    53664,53665,53692,53693,53720,53721,53748,53749,53776,53777,53804,53805,53832,53833,53860,53861,
    53888,53889,53916,53917,53944,53945,53972,53973,54000,54001,54028,54029,54056,54057,54084,54085,
    54112,54113,54140,54141,54168,54169,54196,54197,54224,54225,54252,54253,54280,54281,54308,54309,
    54336,54337,54364,54365,54392,54393,54420,54421,54448,54449,54476,54477,54504,54505,54532,54533,
    54560,54561,54588,54589,54616,54617,54644,54645,54672,54673,54700,54701,54728,54729,54756,54757,
    54784,54785,54812,54813,54840,54841,54868,54869,54896,54897,54924,54925,54952,54953,54980,54981,
    55008,55009,55036,55037,55064,55065,55092,55093,55120,55121,55148,55149,55176,55177,55204]),
  ("Prepend",
    #[1536,1542,1757,1758,1807,1808,2192,2194,2274,2275,3406,3407,69821,69822,69837,69838,70082,
    70084,70609,70610,71999,72000,72001,72002,72324,72330,73030,73031,73474,73475]),
  ("Regional_Indicator",
    #[127462,127488]),
  ("SpacingMark",
    #[2307,2308,2363,2364,2366,2369,2377,2381,2382,2384,2434,2436,2495,2497,2503,2505,2507,2509,
    2563,2564,2622,2625,2691,2692,2750,2753,2761,2762,2763,2765,2818,2820,2880,2881,2887,2889,2891,
    2893,3007,3008,3009,3011,3014,3017,3018,3021,3073,3076,3137,3141,3202,3204,3262,3263,3265,3266,
    3267,3269,3315,3316,3330,3332,3391,3393,3398,3401,3402,3405,3458,3460,3536,3538,3544,3551,3570,
    3572,3635,3636,3763,3764,3902,3904,3967,3968,4145,4146,4155,4157,4182,4184,4228,4229,6070,6071,
    6078,6086,6087,6089,6435,6439,6441,6444,6448,6450,6451,6457,6681,6683,6741,6742,6743,6744,6765,
    6771,6916,6917,6974,6978,7042,7043,7073,7074,7078,7080,7143,7144,7146,7149,7150,7151,7204,7212,
    7220,7222,7393,7394,7415,7416,43043,43045,43047,43048,43136,43138,43188,43204,43346,43347,43395,
    43396,43444,43446,43450,43452,43454,43456,43567,43569,43571,43573,43597,43598,43755,43756,43758,
    43760,43765,43766,44003,44005,44006,44008,44009,44011,44012,44013,69632,69633,69634,69635,69762,
    69763,69808,69811,69815,69817,69932,69933,69957,69959,70018,70019,70067,70070,70079,70080,70094,
    70095,70188,70191,70194,70196,70368,70371,70402,70404,70463,70464,70465,70469,70471,70473,70475,
    70477,70498,70500,70585,70587,70602,70603,70604,70606,70709,70712,70720,70722,70725,70726,70833,
    70835,70841,70842,70843,70845,70846,70847,70849,70850,71088,71090,71096,71100,71102,71103,71216,
    71219,71227,71229,71230,71231,71340,71341,71342,71344,71454,71455,71462,71463,71724,71727,71736,
    71737,71985,71990,71991,71993,72000,72001,72002,72003,72145,72148,72156,72160,72164,72165,72249,
    72250,72279,72281,72343,72344,72751,72752,72766,72767,72873,72874,72881,72882,72884,72885,73098,
    73103,73107,73109,73110,73111,73461,73463,73475,73476,73524,73526,73534,73536,90410,90413,94033,
    94088]),
  ("T",
    #[4520,4608,55243,55292]),
  ("V",
    #[4448,4520,55216,55239]),
  ("ZWJ",
    #[8205,8206])]

/-- The names of the word classes, normalized, and their long names. -/
def wordBreakNames : List (String × String) := [
  ("aletter", "ALetter"),
  ("le", "ALetter"),
  ("cr", "CR"),
  ("doublequote", "Double_Quote"),
  ("dq", "Double_Quote"),
  ("extend", "Extend"),
  ("ex", "ExtendNumLet"),
  ("extendnumlet", "ExtendNumLet"),
  ("fo", "Format"),
  ("format", "Format"),
  ("hebrewletter", "Hebrew_Letter"),
  ("hl", "Hebrew_Letter"),
  ("ka", "Katakana"),
  ("katakana", "Katakana"),
  ("lf", "LF"),
  ("midletter", "MidLetter"),
  ("ml", "MidLetter"),
  ("midnum", "MidNum"),
  ("mn", "MidNum"),
  ("mb", "MidNumLet"),
  ("midnumlet", "MidNumLet"),
  ("newline", "Newline"),
  ("nl", "Newline"),
  ("nu", "Numeric"),
  ("numeric", "Numeric"),
  ("regionalindicator", "Regional_Indicator"),
  ("ri", "Regional_Indicator"),
  ("singlequote", "Single_Quote"),
  ("sq", "Single_Quote"),
  ("wsegspace", "WSegSpace"),
  ("zwj", "ZWJ")]

/-- The bounds of each word class. -/
def wordBreakBounds : List (String × Array Nat) := [
  ("CR",
    #[13,14]),
  ("Double_Quote",
    #[34,35]),
  ("ExtendNumLet",
    #[95,96,8239,8240,8255,8257,8276,8277,65075,65077,65101,65104,65343,65344]),
  ("Extend",
    #[768,880,1155,1162,1425,1470,1471,1472,1473,1475,1476,1478,1479,1480,1552,1563,1611,1632,1648,
    1649,1750,1757,1759,1765,1767,1769,1770,1774,1809,1810,1840,1867,1958,1969,2027,2036,2045,2046,
    2070,2074,2075,2084,2085,2088,2089,2094,2137,2140,2199,2208,2250,2274,2275,2308,2362,2365,2366,
    2384,2385,2392,2402,2404,2433,2436,2492,2493,2494,2501,2503,2505,2507,2510,2519,2520,2530,2532,
    2558,2559,2561,2564,2620,2621,2622,2627,2631,2633,2635,2638,2641,2642,2672,2674,2677,2678,2689,
    2692,2748,2749,2750,2758,2759,2762,2763,2766,2786,2788,2810,2816,2817,2820,2876,2877,2878,2885,
    2887,2889,2891,2894,2901,2904,2914,2916,2946,2947,3006,3011,3014,3017,3018,3022,3031,3032,3072,
    3077,3132,3133,3134,3141,3142,3145,3146,3150,3157,3159,3170,3172,3201,3204,3260,3261,3262,3269,
    3270,3273,3274,3278,3285,3287,3298,3300,3315,3316,3328,3332,3387,3389,3390,3397,3398,3401,3402,
    3406,3415,3416,3426,3428,3457,3460,3530,3531,3535,3541,3542,3543,3544,3552,3570,3572,3633,3634,
    3636,3643,3655,3663,3761,3762,3764,3773,3784,3791,3864,3866,3893,3894,3895,3896,3897,3898,3902,
    3904,3953,3973,3974,3976,3981,3992,3993,4029,4038,4039,4139,4159,4182,4186,4190,4193,4194,4197,
    4199,4206,4209,4213,4226,4238,4239,4240,4250,4254,4957,4960,5906,5910,5938,5941,5970,5972,6002,
    6004,6068,6100,6109,6110,6155,6158,6159,6160,6277,6279,6313,6314,6432,6444,6448,6460,6679,6684,
    6741,6751,6752,6781,6783,6784,6832,6863,6912,6917,6964,6981,7019,7028,7040,7043,7073,7086,7142,
    7156,7204,7224,7376,7379,7380,7401,7405,7406,7412,7413,7415,7418,7616,7680,8204,8205,8400,8433,
    11503,11506,11647,11648,11744,11776,12330,12336,12441,12443,42607,42611,42612,42622,42654,42656,
    42736,42738,43010,43011,43014,43015,43019,43020,43043,43048,43052,43053,43136,43138,43188,43206,
    43232,43250,43263,43264,43302,43310,43335,43348,43392,43396,43443,43457,43493,43494,43561,43575,
    43587,43588,43596,43598,43643,43646,43696,43697,43698,43701,43703,43705,43710,43712,43713,43714,
    43755,43760,43765,43767,44003,44011,44012,44014,64286,64287,65024,65040,65056,65072,65438,65440,
    66045,66046,66272,66273,66422,66427,68097,68100,68101,68103,68108,68112,68152,68155,68159,68160,
    68325,68327,68900,68904,68969,68974,69291,69293,69372,69376,69446,69457,69506,69510,69632,69635,
    69688,69703,69744,69745,69747,69749,69759,69763,69808,69819,69826,69827,69888,69891,69927,69941,
    69957,69959,70003,70004,70016,70019,70067,70081,70089,70093,70094,70096,70188,70200,70206,70207,
    70209,70210,70367,70379,70400,70404,70459,70461,70462,70469,70471,70473,70475,70478,70487,70488,
    70498,70500,70502,70509,70512,70517,70584,70593,70594,70595,70597,70598,70599,70603,70604,70609,
    70610,70611,70625,70627,70709,70727,70750,70751,70832,70852,71087,71094,71096,71105,71132,71134,
    71216,71233,71339,71352,71453,71468,71724,71739,71984,71990,71991,71993,71995,71999,72000,72001,
    72002,72004,72145,72152,72154,72161,72164,72165,72193,72203,72243,72250,72251,72255,72263,72264,
    72273,72284,72330,72346,72751,72759,72760,72768,72850,72872,72873,72887,73009,73015,73018,73019,
    73020,73022,73023,73030,73031,73032,73098,73103,73104,73106,73107,73112,73459,73463,73472,73474,
    73475,73476,73524,73531,73534,73539,73562,73563,78912,78913,78919,78934,90398,90416,92912,92917,
    92976,92983,94031,94032,94033,94088,94095,94099,94180,94181,94192,94194,113821,113823,118528,
    118574,118576,118599,119141,119146,119149,119155,119163,119171,119173,119180,119210,119214,
    119362,119365,121344,121399,121403,121453,121461,121462,121476,121477,121499,121504,121505,
    121520,122880,122887,122888,122905,122907,122914,122915,122917,122918,122923,123023,123024,
    123184,123191,123566,123567,123628,123632,124140,124144,124398,124400,125136,125143,125252,
    125259,127995,128000,917536,917632,917760,918000]),
  ("Format",
    #[173,174,1536,1542,1564,1565,1757,1758,1807,1808,2192,2194,2274,2275,6158,6159,8206,8208,8234,
    8239,8288,8293,8294,8304,65279,65280,65529,65532,69821,69822,69837,69838,78896,78912,113824,
    113828,119155,119163,917505,917506]),
  ("Hebrew_Letter",
    #[1488,1515,1519,1523,64285,64286,64287,64297,64298,64311,64312,64317,64318,64319,64320,64322,
    64323,64325,64326,64336]),
  ("Katakana",
    #[12337,12342,12443,12445,12448,12539,12540,12544,12784,12800,13008,13055,13056,13144,65382,
    65438,110576,110580,110581,110588,110589,110591,110592,110593,110880,110883,110933,110934,
    110948,110952]),
  ("ALetter",
    #[65,91,97,123,170,171,181,182,186,187,192,215,216,247,248,728,734,768,880,885,886,888,890,894,
    895,896,902,903,904,907,908,909,910,930,931,1014,1015,1154,1162,1328,1329,1367,1369,1373,1374,
    1375,1376,1417,1418,1419,1523,1524,1568,1611,1646,1648,1649,1748,1749,1750,1765,1767,1774,1776,
    1786,1789,1791,1792,1808,1809,1810,1840,1869,1958,1969,1970,1994,2027,2036,2038,2042,2043,2048,
    2070,2074,2075,2084,2085,2088,2089,2112,2137,2144,2155,2160,2184,2185,2191,2208,2250,2308,2362,
    2365,2366,2384,2385,2392,2402,2417,2433,2437,2445,2447,2449,2451,2473,2474,2481,2482,2483,2486,
    2490,2493,2494,2510,2511,2524,2526,2527,2530,2544,2546,2556,2557,2565,2571,2575,2577,2579,2601,
    2602,2609,2610,2612,2613,2615,2616,2618,2649,2653,2654,2655,2674,2677,2693,2702,2703,2706,2707,
    2729,2730,2737,2738,2740,2741,2746,2749,2750,2768,2769,2784,2786,2809,2810,2821,2829,2831,2833,
    2835,2857,2858,2865,2866,2868,2869,2874,2877,2878,2908,2910,2911,2914,2929,2930,2947,2948,2949,
    2955,2958,2961,2962,2966,2969,2971,2972,2973,2974,2976,2979,2981,2984,2987,2990,3002,3024,3025,
    3077,3085,3086,3089,3090,3113,3114,3130,3133,3134,3160,3163,3165,3166,3168,3170,3200,3201,3205,
    3213,3214,3217,3218,3241,3242,3252,3253,3258,3261,3262,3293,3295,3296,3298,3313,3315,3332,3341,
    3342,3345,3346,3387,3389,3390,3406,3407,3412,3415,3423,3426,3450,3456,3461,3479,3482,3506,3507,
    3516,3517,3518,3520,3527,3840,3841,3904,3912,3913,3949,3976,3981,4256,4294,4295,4296,4301,4302,
    4304,4347,4348,4681,4682,4686,4688,4695,4696,4697,4698,4702,4704,4745,4746,4750,4752,4785,4786,
    4790,4792,4799,4800,4801,4802,4806,4808,4823,4824,4881,4882,4886,4888,4955,4992,5008,5024,5110,
    5112,5118,5121,5741,5743,5760,5761,5787,5792,5867,5870,5881,5888,5906,5919,5938,5952,5970,5984,
    5997,5998,6001,6176,6265,6272,6277,6279,6313,6314,6315,6320,6390,6400,6431,6656,6679,6917,6964,
    6981,6989,7043,7073,7086,7088,7098,7142,7168,7204,7245,7248,7258,7294,7296,7307,7312,7355,7357,
    7360,7401,7405,7406,7412,7413,7415,7418,7419,7424,7616,7680,7958,7960,7966,7968,8006,8008,8014,
    8016,8024,8025,8026,8027,8028,8029,8030,8031,8062,8064,8117,8118,8125,8126,8127,8130,8133,8134,
    8141,8144,8148,8150,8156,8160,8173,8178,8181,8182,8189,8305,8306,8319,8320,8336,8349,8450,8451,
    8455,8456,8458,8468,8469,8470,8473,8478,8484,8485,8486,8487,8488,8489,8490,8494,8495,8506,8508,
    8512,8517,8522,8526,8527,8544,8585,9398,9450,11264,11493,11499,11503,11506,11508,11520,11558,
    11559,11560,11565,11566,11568,11624,11631,11632,11648,11671,11680,11687,11688,11695,11696,11703,
    11704,11711,11712,11719,11720,11727,11728,11735,11736,11743,11823,11824,12293,12294,12347,12349,
    12549,12592,12593,12687,12704,12736,40960,42125,42192,42238,42240,42509,42512,42528,42538,42540,
    42560,42607,42623,42654,42656,42736,42760,42958,42960,42962,42963,42964,42965,42973,42994,43010,
    43011,43014,43015,43019,43020,43043,43072,43124,43138,43188,43250,43256,43259,43260,43261,43263,
    43274,43302,43312,43335,43360,43389,43396,43443,43471,43472,43520,43561,43584,43587,43588,43596,
    43744,43755,43762,43765,43777,43783,43785,43791,43793,43799,43808,43815,43816,43823,43824,43882,
    43888,44003,44032,55204,55216,55239,55243,55292,64256,64263,64275,64280,64336,64434,64467,64830,
    64848,64912,64914,64968,65008,65020,65136,65141,65142,65277,65313,65339,65345,65371,65440,65471,
    65474,65480,65482,65488,65490,65496,65498,65501,65536,65548,65549,65575,65576,65595,65596,65598,
    65599,65614,65616,65630,65664,65787,65856,65909,66176,66205,66208,66257,66304,66336,66349,66379,
    66384,66422,66432,66462,66464,66500,66504,66512,66513,66518,66560,66718,66736,66772,66776,66812,
    66816,66856,66864,66916,66928,66939,66940,66955,66956,66963,66964,66966,66967,66978,66979,66994,
    66995,67002,67003,67005,67008,67060,67072,67383,67392,67414,67424,67432,67456,67462,67463,67505,
    67506,67515,67584,67590,67592,67593,67594,67638,67639,67641,67644,67645,67647,67670,67680,67703,
    67712,67743,67808,67827,67828,67830,67840,67862,67872,67898,67968,68024,68030,68032,68096,68097,
    68112,68116,68117,68120,68121,68150,68192,68221,68224,68253,68288,68296,68297,68325,68352,68406,
    68416,68438,68448,68467,68480,68498,68608,68681,68736,68787,68800,68851,68864,68900,68938,68966,
    68975,68998,69248,69290,69296,69298,69314,69317,69376,69405,69415,69416,69424,69446,69488,69506,
    69552,69573,69600,69623,69635,69688,69745,69747,69749,69750,69763,69808,69840,69865,69891,69927,
    69956,69957,69959,69960,69968,70003,70006,70007,70019,70067,70081,70085,70106,70107,70108,70109,
    70144,70162,70163,70188,70207,70209,70272,70279,70280,70281,70282,70286,70287,70302,70303,70313,
    70320,70367,70405,70413,70415,70417,70419,70441,70442,70449,70450,70452,70453,70458,70461,70462,
    70480,70481,70493,70498,70528,70538,70539,70540,70542,70543,70544,70582,70583,70584,70609,70610,
    70611,70612,70656,70709,70727,70731,70751,70754,70784,70832,70852,70854,70855,70856,71040,71087,
    71128,71132,71168,71216,71236,71237,71296,71339,71352,71353,71680,71724,71840,71904,71935,71943,
    71945,71946,71948,71956,71957,71959,71960,71984,71999,72000,72001,72002,72096,72104,72106,72145,
    72161,72162,72163,72164,72192,72193,72203,72243,72250,72251,72272,72273,72284,72330,72349,72350,
    72368,72441,72640,72673,72704,72713,72714,72751,72768,72769,72818,72848,72960,72967,72968,72970,
    72971,73009,73030,73031,73056,73062,73063,73065,73066,73098,73112,73113,73440,73459,73474,73475,
    73476,73489,73490,73524,73648,73649,73728,74650,74752,74863,74880,75076,77712,77809,77824,78896,
    78913,78919,78944,82939,82944,83527,90368,90398,92160,92729,92736,92767,92784,92863,92880,92910,
    92928,92976,92992,92996,93027,93048,93053,93072,93504,93549,93760,93824,93952,94027,94032,94033,
    94099,94112,94176,94178,94179,94180,113664,113771,113776,113789,113792,113801,113808,113818,
    119808,119893,119894,119965,119966,119968,119970,119971,119973,119975,119977,119981,119982,
    119994,119995,119996,119997,120004,120005,120070,120071,120075,120077,120085,120086,120093,
    120094,120122,120123,120127,120128,120133,120134,120135,120138,120145,120146,120486,120488,
    120513,120514,120539,120540,120571,120572,120597,120598,120629,120630,120655,120656,120687,
    120688,120713,120714,120745,120746,120771,120772,120780,122624,122655,122661,122667,122928,
    122990,123136,123181,123191,123198,123214,123215,123536,123566,123584,123628,124112,124140,
    124368,124398,124400,124401,124896,124903,124904,124908,124909,124911,124912,124927,124928,
    125125,125184,125252,125259,125260,126464,126468,126469,126496,126497,126499,126500,126501,
    126503,126504,126505,126515,126516,126520,126521,126522,126523,126524,126530,126531,126535,
    126536,126537,126538,126539,126540,126541,126544,126545,126547,126548,126549,126551,126552,
    126553,126554,126555,126556,126557,126558,126559,126560,126561,126563,126564,126565,126567,
    126571,126572,126579,126580,126584,126585,126589,126590,126591,126592,126602,126603,126620,
    126625,126628,126629,126634,126635,126652,127280,127306,127312,127338,127344,127370]),
  ("LF",
    #[10,11]),
  ("MidNumLet",
    #[46,47,8216,8218,8228,8229,65106,65107,65287,65288,65294,65295]),
  ("MidLetter",
    #[58,59,183,184,903,904,1375,1376,1524,1525,8231,8232,65043,65044,65109,65110,65306,65307]),
  ("MidNum",
    #[44,45,59,60,894,895,1417,1418,1548,1550,1644,1645,2040,2041,8260,8261,65040,65041,65044,65045,
    65104,65105,65108,65109,65292,65293,65307,65308]),
  ("Newline",
    #[11,13,133,134,8232,8234]),
  ("Numeric",
    #[48,58,1632,1642,1643,1644,1776,1786,1984,1994,2406,2416,2534,2544,2662,2672,2790,2800,2918,
    2928,3046,3056,3174,3184,3302,3312,3430,3440,3558,3568,3664,3674,3792,3802,3872,3882,4160,4170,
    4240,4250,6112,6122,6160,6170,6470,6480,6608,6618,6784,6794,6800,6810,6992,7002,7088,7098,7232,
    7242,7248,7258,42528,42538,43216,43226,43264,43274,43472,43482,43504,43514,43600,43610,44016,
    44026,65296,65306,66720,66730,68912,68922,68928,68938,69734,69744,69872,69882,69942,69952,70096,
    70106,70384,70394,70736,70746,70864,70874,71248,71258,71360,71370,71376,71396,71472,71482,71904,
    71914,72016,72026,72688,72698,72784,72794,73040,73050,73120,73130,73552,73562,90416,90426,92768,
    92778,92864,92874,93008,93018,93552,93562,118000,118010,120782,120832,123200,123210,123632,
    123642,124144,124154,124401,124411,125264,125274,130032,130042]),
  ("Regional_Indicator",
    #[127462,127488]),
  ("Single_Quote",
    #[39,40]),
  ("WSegSpace",
    #[32,33,5760,5761,8192,8199,8200,8203,8287,8288,12288,12289]),
  ("ZWJ",
    #[8205,8206])]

/-- The names of the sentence classes, normalized, and their long names. -/
def sentenceBreakNames : List (String × String) := [
  ("at", "ATerm"),
  ("aterm", "ATerm"),
  ("cr", "CR"),
  ("cl", "Close"),
  ("close", "Close"),
  ("ex", "Extend"),
  ("extend", "Extend"),
  ("fo", "Format"),
  ("format", "Format"),
  ("lf", "LF"),
  ("lo", "Lower"),
  ("lower", "Lower"),
  ("nu", "Numeric"),
  ("numeric", "Numeric"),
  ("le", "OLetter"),
  ("oletter", "OLetter"),
  ("sc", "SContinue"),
  ("scontinue", "SContinue"),
  ("st", "STerm"),
  ("sterm", "STerm"),
  ("se", "Sep"),
  ("sep", "Sep"),
  ("sp", "Sp"),
  ("up", "Upper"),
  ("upper", "Upper")]

/-- The bounds of each sentence class. -/
def sentenceBreakBounds : List (String × Array Nat) := [
  ("ATerm",
    #[46,47,8228,8229,65106,65107,65294,65295]),
  ("Close",
    #[34,35,39,42,91,92,93,94,123,124,125,126,171,172,187,188,3898,3902,5787,5789,8216,8224,8249,
    8251,8261,8263,8317,8319,8333,8335,8968,8972,9001,9003,10075,10081,10088,10102,10181,10183,
    10214,10224,10627,10649,10712,10716,10748,10750,11776,11790,11804,11806,11808,11818,11842,11843,
    11861,11869,12296,12306,12308,12316,12317,12320,64830,64832,65047,65049,65077,65093,65095,65097,
    65113,65119,65288,65290,65339,65340,65341,65342,65371,65372,65373,65374,65375,65377,65378,65380,
    128630,128633]),
  ("CR",
    #[13,14]),
  ("Extend",
    #[768,880,1155,1162,1425,1470,1471,1472,1473,1475,1476,1478,1479,1480,1552,1563,1611,1632,1648,
    1649,1750,1757,1759,1765,1767,1769,1770,1774,1809,1810,1840,1867,1958,1969,2027,2036,2045,2046,
    2070,2074,2075,2084,2085,2088,2089,2094,2137,2140,2199,2208,2250,2274,2275,2308,2362,2365,2366,
    2384,2385,2392,2402,2404,2433,2436,2492,2493,2494,2501,2503,2505,2507,2510,2519,2520,2530,2532,
    2558,2559,2561,2564,2620,2621,2622,2627,2631,2633,2635,2638,2641,2642,2672,2674,2677,2678,2689,
    2692,2748,2749,2750,2758,2759,2762,2763,2766,2786,2788,2810,2816,2817,2820,2876,2877,2878,2885,
    2887,2889,2891,2894,2901,2904,2914,2916,2946,2947,3006,3011,3014,3017,3018,3022,3031,3032,3072,
    3077,3132,3133,3134,3141,3142,3145,3146,3150,3157,3159,3170,3172,3201,3204,3260,3261,3262,3269,
    3270,3273,3274,3278,3285,3287,3298,3300,3315,3316,3328,3332,3387,3389,3390,3397,3398,3401,3402,
    3406,3415,3416,3426,3428,3457,3460,3530,3531,3535,3541,3542,3543,3544,3552,3570,3572,3633,3634,
    3636,3643,3655,3663,3761,3762,3764,3773,3784,3791,3864,3866,3893,3894,3895,3896,3897,3898,3902,
    3904,3953,3973,3974,3976,3981,3992,3993,4029,4038,4039,4139,4159,4182,4186,4190,4193,4194,4197,
    4199,4206,4209,4213,4226,4238,4239,4240,4250,4254,4957,4960,5906,5910,5938,5941,5970,5972,6002,
    6004,6068,6100,6109,6110,6155,6158,6159,6160,6277,6279,6313,6314,6432,6444,6448,6460,6679,6684,
    6741,6751,6752,6781,6783,6784,6832,6863,6912,6917,6964,6981,7019,7028,7040,7043,7073,7086,7142,
    7156,7204,7224,7376,7379,7380,7401,7405,7406,7412,7413,7415,7418,7616,7680,8204,8206,8400,8433,
    11503,11506,11647,11648,11744,11776,12330,12336,12441,12443,42607,42611,42612,42622,42654,42656,
    42736,42738,43010,43011,43014,43015,43019,43020,43043,43048,43052,43053,43136,43138,43188,43206,
    43232,43250,43263,43264,43302,43310,43335,43348,43392,43396,43443,43457,43493,43494,43561,43575,
    43587,43588,43596,43598,43643,43646,43696,43697,43698,43701,43703,43705,43710,43712,43713,43714,
    43755,43760,43765,43767,44003,44011,44012,44014,64286,64287,65024,65040,65056,65072,65438,65440,
    66045,66046,66272,66273,66422,66427,68097,68100,68101,68103,68108,68112,68152,68155,68159,68160,
    68325,68327,68900,68904,68969,68974,69291,69293,69372,69376,69446,69457,69506,69510,69632,69635,
    69688,69703,69744,69745,69747,69749,69759,69763,69808,69819,69826,69827,69888,69891,69927,69941,
    69957,69959,70003,70004,70016,70019,70067,70081,70089,70093,70094,70096,70188,70200,70206,70207,
    70209,70210,70367,70379,70400,70404,70459,70461,70462,70469,70471,70473,70475,70478,70487,70488,
    70498,70500,70502,70509,70512,70517,70584,70593,70594,70595,70597,70598,70599,70603,70604,70609,
    70610,70611,70625,70627,70709,70727,70750,70751,70832,70852,71087,71094,71096,71105,71132,71134,
    71216,71233,71339,71352,71453,71468,71724,71739,71984,71990,71991,71993,71995,71999,72000,72001,
    72002,72004,72145,72152,72154,72161,72164,72165,72193,72203,72243,72250,72251,72255,72263,72264,
    72273,72284,72330,72346,72751,72759,72760,72768,72850,72872,72873,72887,73009,73015,73018,73019,
    73020,73022,73023,73030,73031,73032,73098,73103,73104,73106,73107,73112,73459,73463,73472,73474,
    73475,73476,73524,73531,73534,73539,73562,73563,78912,78913,78919,78934,90398,90416,92912,92917,
    92976,92983,94031,94032,94033,94088,94095,94099,94180,94181,94192,94194,113821,113823,118528,
    118574,118576,118599,119141,119146,119149,119155,119163,119171,119173,119180,119210,119214,
    119362,119365,121344,121399,121403,121453,121461,121462,121476,121477,121499,121504,121505,
    121520,122880,122887,122888,122905,122907,122914,122915,122917,122918,122923,123023,123024,
    123184,123191,123566,123567,123628,123632,124140,124144,124398,124400,125136,125143,125252,
    125259,917536,917632,917760,918000]),
  ("Format",
    #[173,174,1536,1542,1564,1565,1757,1758,1807,1808,2192,2194,2274,2275,6158,6159,8203,8204,8206,
    8208,8234,8239,8288,8293,8294,8304,65279,65280,65529,65532,69821,69822,69837,69838,78896,78912,
    113824,113828,119155,119163,917505,917506]),
  ("OLetter",
    #[443,444,448,452,660,661,697,704,710,722,748,749,750,751,884,885,1369,1370,1488,1515,1519,1524,
    1568,1611,1646,1648,1649,1748,1749,1750,1765,1767,1774,1776,1786,1789,1791,1792,1808,1809,1810,
    1840,1869,1958,1969,1970,1994,2027,2036,2038,2042,2043,2048,2070,2074,2075,2084,2085,2088,2089,
    2112,2137,2144,2155,2160,2184,2185,2191,2208,2250,2308,2362,2365,2366,2384,2385,2392,2402,2417,
    2433,2437,2445,2447,2449,2451,2473,2474,2481,2482,2483,2486,2490,2493,2494,2510,2511,2524,2526,
    2527,2530,2544,2546,2556,2557,2565,2571,2575,2577,2579,2601,2602,2609,2610,2612,2613,2615,2616,
    2618,2649,2653,2654,2655,2674,2677,2693,2702,2703,2706,2707,2729,2730,2737,2738,2740,2741,2746,
    2749,2750,2768,2769,2784,2786,2809,2810,2821,2829,2831,2833,2835,2857,2858,2865,2866,2868,2869,
    2874,2877,2878,2908,2910,2911,2914,2929,2930,2947,2948,2949,2955,2958,2961,2962,2966,2969,2971,
    2972,2973,2974,2976,2979,2981,2984,2987,2990,3002,3024,3025,3077,3085,3086,3089,3090,3113,3114,
    3130,3133,3134,3160,3163,3165,3166,3168,3170,3200,3201,3205,3213,3214,3217,3218,3241,3242,3252,
    3253,3258,3261,3262,3293,3295,3296,3298,3313,3315,3332,3341,3342,3345,3346,3387,3389,3390,3406,
    3407,3412,3415,3423,3426,3450,3456,3461,3479,3482,3506,3507,3516,3517,3518,3520,3527,3585,3633,
    3634,3636,3648,3655,3713,3715,3716,3717,3718,3723,3724,3748,3749,3750,3751,3761,3762,3764,3773,
    3774,3776,3781,3782,3783,3804,3808,3840,3841,3904,3912,3913,3949,3976,3981,4096,4139,4159,4160,
    4176,4182,4186,4190,4193,4194,4197,4199,4206,4209,4213,4226,4238,4239,4304,4347,4349,4681,4682,
    4686,4688,4695,4696,4697,4698,4702,4704,4745,4746,4750,4752,4785,4786,4790,4792,4799,4800,4801,
    4802,4806,4808,4823,4824,4881,4882,4886,4888,4955,4992,5008,5121,5741,5743,5760,5761,5787,5792,
    5867,5870,5881,5888,5906,5919,5938,5952,5970,5984,5997,5998,6001,6016,6068,6103,6104,6108,6109,
    6176,6265,6272,6277,6279,6313,6314,6315,6320,6390,6400,6431,6480,6510,6512,6517,6528,6572,6576,
    6602,6656,6679,6688,6741,6823,6824,6917,6964,6981,6989,7043,7073,7086,7088,7098,7142,7168,7204,
    7245,7248,7258,7294,7312,7355,7357,7360,7401,7405,7406,7412,7413,7415,7418,7419,8501,8505,8576,
    8579,8581,8585,11568,11624,11631,11632,11648,11671,11680,11687,11688,11695,11696,11703,11704,
    11711,11712,11719,11720,11727,11728,11735,11736,11743,11823,11824,12293,12296,12321,12330,12337,
    12342,12344,12349,12353,12439,12445,12448,12449,12539,12540,12544,12549,12592,12593,12687,12704,
    12736,12784,12800,13312,19904,19968,42125,42192,42238,42240,42509,42512,42528,42538,42540,42606,
    42607,42623,42624,42656,42736,42775,42784,42888,42889,42895,42896,42999,43000,43003,43010,43011,
    43014,43015,43019,43020,43043,43072,43124,43138,43188,43250,43256,43259,43260,43261,43263,43274,
    43302,43312,43335,43360,43389,43396,43443,43471,43472,43488,43493,43494,43504,43514,43519,43520,
    43561,43584,43587,43588,43596,43616,43639,43642,43643,43646,43696,43697,43698,43701,43703,43705,
    43710,43712,43713,43714,43715,43739,43742,43744,43755,43762,43765,43777,43783,43785,43791,43793,
    43799,43808,43815,43816,43823,43968,44003,44032,55204,55216,55239,55243,55292,63744,64110,64112,
    64218,64285,64286,64287,64297,64298,64311,64312,64317,64318,64319,64320,64322,64323,64325,64326,
    64434,64467,64830,64848,64912,64914,64968,65008,65020,65136,65141,65142,65277,65382,65438,65440,
    65471,65474,65480,65482,65488,65490,65496,65498,65501,65536,65548,65549,65575,65576,65595,65596,
    65598,65599,65614,65616,65630,65664,65787,65856,65909,66176,66205,66208,66257,66304,66336,66349,
    66379,66384,66422,66432,66462,66464,66500,66504,66512,66513,66518,66640,66718,66816,66856,66864,
    66916,67008,67060,67072,67383,67392,67414,67424,67432,67457,67459,67584,67590,67592,67593,67594,
    67638,67639,67641,67644,67645,67647,67670,67680,67703,67712,67743,67808,67827,67828,67830,67840,
    67862,67872,67898,67968,68024,68030,68032,68096,68097,68112,68116,68117,68120,68121,68150,68192,
    68221,68224,68253,68288,68296,68297,68325,68352,68406,68416,68438,68448,68467,68480,68498,68608,
    68681,68864,68900,68938,68944,68975,68976,69248,69290,69296,69298,69314,69317,69376,69405,69415,
    69416,69424,69446,69488,69506,69552,69573,69600,69623,69635,69688,69745,69747,69749,69750,69763,
    69808,69840,69865,69891,69927,69956,69957,69959,69960,69968,70003,70006,70007,70019,70067,70081,
    70085,70106,70107,70108,70109,70144,70162,70163,70188,70207,70209,70272,70279,70280,70281,70282,
    70286,70287,70302,70303,70313,70320,70367,70405,70413,70415,70417,70419,70441,70442,70449,70450,
    70452,70453,70458,70461,70462,70480,70481,70493,70498,70528,70538,70539,70540,70542,70543,70544,
    70582,70583,70584,70609,70610,70611,70612,70656,70709,70727,70731,70751,70754,70784,70832,70852,
    70854,70855,70856,71040,71087,71128,71132,71168,71216,71236,71237,71296,71339,71352,71353,71424,
    71451,71488,71495,71680,71724,71935,71943,71945,71946,71948,71956,71957,71959,71960,71984,71999,
    72000,72001,72002,72096,72104,72106,72145,72161,72162,72163,72164,72192,72193,72203,72243,72250,
    72251,72272,72273,72284,72330,72349,72350,72368,72441,72640,72673,72704,72713,72714,72751,72768,
    72769,72818,72848,72960,72967,72968,72970,72971,73009,73030,73031,73056,73062,73063,73065,73066,
    73098,73112,73113,73440,73459,73474,73475,73476,73489,73490,73524,73648,73649,73728,74650,74752,
    74863,74880,75076,77712,77809,77824,78896,78913,78919,78944,82939,82944,83527,90368,90398,92160,
    92729,92736,92767,92784,92863,92880,92910,92928,92976,92992,92996,93027,93048,93053,93072,93504,
    93549,93952,94027,94032,94033,94099,94112,94176,94178,94179,94180,94208,100344,100352,101590,
    101631,101641,110576,110580,110581,110588,110589,110591,110592,110883,110898,110899,110928,
    110931,110933,110934,110948,110952,110960,111356,113664,113771,113776,113789,113792,113801,
    113808,113818,122634,122635,123136,123181,123191,123198,123214,123215,123536,123566,123584,
    123628,124112,124140,124368,124398,124400,124401,124896,124903,124904,124908,124909,124911,
    124912,124927,124928,125125,125259,125260,126464,126468,126469,126496,126497,126499,126500,
    126501,126503,126504,126505,126515,126516,126520,126521,126522,126523,126524,126530,126531,
    126535,126536,126537,126538,126539,126540,126541,126544,126545,126547,126548,126549,126551,
    126552,126553,126554,126555,126556,126557,126558,126559,126560,126561,126563,126564,126565,
    126567,126571,126572,126579,126580,126584,126585,126589,126590,126591,126592,126602,126603,
    126620,126625,126628,126629,126634,126635,126652,131072,173792,173824,177978,177984,178206,
    178208,183970,183984,191457,191472,192094,194560,195102,196608,201547,201552,205744]),
  ("LF",
    #[10,11]),
  ("Lower",
    #[97,123,170,171,181,182,186,187,223,247,248,256,257,258,259,260,261,262,263,264,265,266,267,
    268,269,270,271,272,273,274,275,276,277,278,279,280,281,282,283,284,285,286,287,288,289,290,291,
    292,293,294,295,296,297,298,299,300,301,302,303,304,305,306,307,308,309,310,311,313,314,315,316,
    317,318,319,320,321,322,323,324,325,326,327,328,330,331,332,333,334,335,336,337,338,339,340,341,
    342,343,344,345,346,347,348,349,350,351,352,353,354,355,356,357,358,359,360,361,362,363,364,365,
    366,367,368,369,370,371,372,373,374,375,376,378,379,380,381,382,385,387,388,389,390,392,393,396,
    398,402,403,405,406,409,412,414,415,417,418,419,420,421,422,424,425,426,428,429,430,432,433,436,
    437,438,439,441,443,445,448,454,455,457,458,460,461,462,463,464,465,466,467,468,469,470,471,472,
    473,474,475,476,478,479,480,481,482,483,484,485,486,487,488,489,490,491,492,493,494,495,497,499,
    500,501,502,505,506,507,508,509,510,511,512,513,514,515,516,517,518,519,520,521,522,523,524,525,
    526,527,528,529,530,531,532,533,534,535,536,537,538,539,540,541,542,543,544,545,546,547,548,549,
    550,551,552,553,554,555,556,557,558,559,560,561,562,563,570,572,573,575,577,578,579,583,584,585,
    586,587,588,589,590,591,660,661,697,704,706,736,741,881,882,883,884,887,888,890,894,912,913,940,
    975,976,978,981,984,985,986,987,988,989,990,991,992,993,994,995,996,997,998,999,1000,1001,1002,
    1003,1004,1005,1006,1007,1012,1013,1014,1016,1017,1019,1021,1072,1120,1121,1122,1123,1124,1125,
    1126,1127,1128,1129,1130,1131,1132,1133,1134,1135,1136,1137,1138,1139,1140,1141,1142,1143,1144,
    1145,1146,1147,1148,1149,1150,1151,1152,1153,1154,1163,1164,1165,1166,1167,1168,1169,1170,1171,
    1172,1173,1174,1175,1176,1177,1178,1179,1180,1181,1182,1183,1184,1185,1186,1187,1188,1189,1190,
    1191,1192,1193,1194,1195,1196,1197,1198,1199,1200,1201,1202,1203,1204,1205,1206,1207,1208,1209,
    1210,1211,1212,1213,1214,1215,1216,1218,1219,1220,1221,1222,1223,1224,1225,1226,1227,1228,1229,
    1230,1232,1233,1234,1235,1236,1237,1238,1239,1240,1241,1242,1243,1244,1245,1246,1247,1248,1249,
    1250,1251,1252,1253,1254,1255,1256,1257,1258,1259,1260,1261,1262,1263,1264,1265,1266,1267,1268,
    1269,1270,1271,1272,1273,1274,1275,1276,1277,1278,1279,1280,1281,1282,1283,1284,1285,1286,1287,
    1288,1289,1290,1291,1292,1293,1294,1295,1296,1297,1298,1299,1300,1301,1302,1303,1304,1305,1306,
    1307,1308,1309,1310,1311,1312,1313,1314,1315,1316,1317,1318,1319,1320,1321,1322,1323,1324,1325,
    1326,1327,1328,1376,1417,4348,4349,5112,5118,7296,7305,7306,7307,7424,7616,7681,7682,7683,7684,
    7685,7686,7687,7688,7689,7690,7691,7692,7693,7694,7695,7696,7697,7698,7699,7700,7701,7702,7703,
    7704,7705,7706,7707,7708,7709,7710,7711,7712,7713,7714,7715,7716,7717,7718,7719,7720,7721,7722,
    7723,7724,7725,7726,7727,7728,7729,7730,7731,7732,7733,7734,7735,7736,7737,7738,7739,7740,7741,
    7742,7743,7744,7745,7746,7747,7748,7749,7750,7751,7752,7753,7754,7755,7756,7757,7758,7759,7760,
    7761,7762,7763,7764,7765,7766,7767,7768,7769,7770,7771,7772,7773,7774,7775,7776,7777,7778,7779,
    7780,7781,7782,7783,7784,7785,7786,7787,7788,7789,7790,7791,7792,7793,7794,7795,7796,7797,7798,
    7799,7800,7801,7802,7803,7804,7805,7806,7807,7808,7809,7810,7811,7812,7813,7814,7815,7816,7817,
    7818,7819,7820,7821,7822,7823,7824,7825,7826,7827,7828,7829,7838,7839,7840,7841,7842,7843,7844,
    7845,7846,7847,7848,7849,7850,7851,7852,7853,7854,7855,7856,7857,7858,7859,7860,7861,7862,7863,
    7864,7865,7866,7867,7868,7869,7870,7871,7872,7873,7874,7875,7876,7877,7878,7879,7880,7881,7882,
    7883,7884,7885,7886,7887,7888,7889,7890,7891,7892,7893,7894,7895,7896,7897,7898,7899,7900,7901,
    7902,7903,7904,7905,7906,7907,7908,7909,7910,7911,7912,7913,7914,7915,7916,7917,7918,7919,7920,
    7921,7922,7923,7924,7925,7926,7927,7928,7929,7930,7931,7932,7933,7934,7935,7944,7952,7958,7968,
    7976,7984,7992,8000,8006,8016,8024,8032,8040,8048,8062,8064,8072,8080,8088,8096,8104,8112,8117,
    8118,8120,8126,8127,8130,8133,8134,8136,8144,8148,8150,8152,8160,8168,8178,8181,8182,8184,8305,
    8306,8319,8320,8336,8349,8458,8459,8462,8464,8467,8468,8495,8496,8500,8501,8505,8506,8508,8510,
    8518,8522,8526,8527,8560,8576,8580,8581,9424,9450,11312,11360,11361,11362,11365,11367,11368,
    11369,11370,11371,11372,11373,11377,11378,11379,11381,11382,11390,11393,11394,11395,11396,11397,
    11398,11399,11400,11401,11402,11403,11404,11405,11406,11407,11408,11409,11410,11411,11412,11413,
    11414,11415,11416,11417,11418,11419,11420,11421,11422,11423,11424,11425,11426,11427,11428,11429,
    11430,11431,11432,11433,11434,11435,11436,11437,11438,11439,11440,11441,11442,11443,11444,11445,
    11446,11447,11448,11449,11450,11451,11452,11453,11454,11455,11456,11457,11458,11459,11460,11461,
    11462,11463,11464,11465,11466,11467,11468,11469,11470,11471,11472,11473,11474,11475,11476,11477,
    11478,11479,11480,11481,11482,11483,11484,11485,11486,11487,11488,11489,11490,11491,11493,11500,
    11501,11502,11503,11507,11508,11520,11558,11559,11560,11565,11566,42561,42562,42563,42564,42565,
    42566,42567,42568,42569,42570,42571,42572,42573,42574,42575,42576,42577,42578,42579,42580,42581,
    42582,42583,42584,42585,42586,42587,42588,42589,42590,42591,42592,42593,42594,42595,42596,42597,
    42598,42599,42600,42601,42602,42603,42604,42605,42606,42625,42626,42627,42628,42629,42630,42631,
    42632,42633,42634,42635,42636,42637,42638,42639,42640,42641,42642,42643,42644,42645,42646,42647,
    42648,42649,42650,42651,42654,42787,42788,42789,42790,42791,42792,42793,42794,42795,42796,42797,
    42798,42799,42802,42803,42804,42805,42806,42807,42808,42809,42810,42811,42812,42813,42814,42815,
    42816,42817,42818,42819,42820,42821,42822,42823,42824,42825,42826,42827,42828,42829,42830,42831,
    42832,42833,42834,42835,42836,42837,42838,42839,42840,42841,42842,42843,42844,42845,42846,42847,
    42848,42849,42850,42851,42852,42853,42854,42855,42856,42857,42858,42859,42860,42861,42862,42863,
    42873,42874,42875,42876,42877,42879,42880,42881,42882,42883,42884,42885,42886,42887,42888,42892,
    42893,42894,42895,42897,42898,42899,42902,42903,42904,42905,42906,42907,42908,42909,42910,42911,
    42912,42913,42914,42915,42916,42917,42918,42919,42920,42921,42922,42927,42928,42933,42934,42935,
    42936,42937,42938,42939,42940,42941,42942,42943,42944,42945,42946,42947,42948,42952,42953,42954,
    42955,42957,42958,42961,42962,42963,42964,42965,42966,42967,42968,42969,42970,42971,42972,42994,
    42997,42998,42999,43000,43003,43824,43867,43868,43882,43888,43968,64256,64263,64275,64280,65345,
    65371,66600,66640,66776,66812,66967,66978,66979,66994,66995,67002,67003,67005,67456,67457,67459,
    67462,67463,67505,67506,67515,68800,68851,68976,68998,71872,71904,93792,93824,119834,119860,
    119886,119893,119894,119912,119938,119964,119990,119994,119995,119996,119997,120004,120005,
    120016,120042,120068,120094,120120,120146,120172,120198,120224,120250,120276,120302,120328,
    120354,120380,120406,120432,120458,120486,120514,120539,120540,120546,120572,120597,120598,
    120604,120630,120655,120656,120662,120688,120713,120714,120720,120746,120771,120772,120778,
    120779,120780,122624,122634,122635,122655,122661,122667,122928,122990,125218,125252]),
  ("Numeric",
    #[48,58,1632,1642,1643,1645,1776,1786,1984,1994,2406,2416,2534,2544,2662,2672,2790,2800,2918,
    2928,3046,3056,3174,3184,3302,3312,3430,3440,3558,3568,3664,3674,3792,3802,3872,3882,4160,4170,
    4240,4250,6112,6122,6160,6170,6470,6480,6608,6618,6784,6794,6800,6810,6992,7002,7088,7098,7232,
    7242,7248,7258,42528,42538,43216,43226,43264,43274,43472,43482,43504,43514,43600,43610,44016,
    44026,65296,65306,66720,66730,68912,68922,68928,68938,69734,69744,69872,69882,69942,69952,70096,
    70106,70384,70394,70736,70746,70864,70874,71248,71258,71360,71370,71376,71396,71472,71482,71904,
    71914,72016,72026,72688,72698,72784,72794,73040,73050,73120,73130,73552,73562,90416,90426,92768,
    92778,92864,92874,93008,93018,93552,93562,118000,118010,120782,120832,123200,123210,123632,
    123642,124144,124154,124401,124411,125264,125274,130032,130042]),
  ("SContinue",
    #[44,46,58,59,1373,1374,1548,1550,2040,2041,6146,6147,6152,6153,8211,8213,12289,12290,65040,
    65042,65043,65044,65073,65075,65104,65106,65109,65110,65112,65113,65123,65124,65292,65294,65306,
    65307,65380,65381]),
  ("Sep",
    #[133,134,8232,8234]),
  ("Sp",
    #[9,10,11,13,32,33,160,161,5760,5761,8192,8203,8239,8240,8287,8288,12288,12289]),
  ("STerm",
    #[33,34,63,64,1417,1418,1565,1568,1748,1749,1792,1795,2041,2042,2103,2104,2105,2106,2109,2111,
    2404,2406,4170,4172,4962,4963,4967,4969,5742,5743,5941,5943,6147,6148,6153,6154,6468,6470,6824,
    6828,6990,6992,7002,7004,7006,7008,7037,7040,7227,7229,7294,7296,8252,8254,8263,8266,11822,
    11823,11836,11837,11859,11861,12290,12291,42239,42240,42510,42512,42739,42740,42743,42744,43126,
    43128,43214,43216,43311,43312,43464,43466,43613,43616,43760,43762,44011,44012,65110,65112,65281,
    65282,65311,65312,65377,65378,68182,68184,69461,69466,69510,69514,69703,69705,69822,69826,69953,
    69956,70085,70087,70093,70094,70110,70112,70200,70202,70203,70205,70313,70314,70612,70614,70731,
    70733,71106,71108,71113,71128,71233,71235,71484,71487,72004,72005,72006,72007,72258,72260,72347,
    72349,72769,72771,73463,73465,73539,73541,92782,92784,92917,92918,92983,92985,92996,92997,93550,
    93552,93848,93849,113823,113824,121480,121481]),
  ("Upper",
    #[65,91,192,215,216,223,256,257,258,259,260,261,262,263,264,265,266,267,268,269,270,271,272,273,
    274,275,276,277,278,279,280,281,282,283,284,285,286,287,288,289,290,291,292,293,294,295,296,297,
    298,299,300,301,302,303,304,305,306,307,308,309,310,311,313,314,315,316,317,318,319,320,321,322,
    323,324,325,326,327,328,330,331,332,333,334,335,336,337,338,339,340,341,342,343,344,345,346,347,
    348,349,350,351,352,353,354,355,356,357,358,359,360,361,362,363,364,365,366,367,368,369,370,371,
    372,373,374,375,376,378,379,380,381,382,385,387,388,389,390,392,393,396,398,402,403,405,406,409,
    412,414,415,417,418,419,420,421,422,424,425,426,428,429,430,432,433,436,437,438,439,441,444,445,
    452,454,455,457,458,460,461,462,463,464,465,466,467,468,469,470,471,472,473,474,475,476,478,479,
    480,481,482,483,484,485,486,487,488,489,490,491,492,493,494,495,497,499,500,501,502,505,506,507,
    508,509,510,511,512,513,514,515,516,517,518,519,520,521,522,523,524,525,526,527,528,529,530,531,
    532,533,534,535,536,537,538,539,540,541,542,543,544,545,546,547,548,549,550,551,552,553,554,555,
    556,557,558,559,560,561,562,563,570,572,573,575,577,578,579,583,584,585,586,587,588,589,590,591,
    880,881,882,883,886,887,895,896,902,903,904,907,908,909,910,912,913,930,931,940,975,976,978,981,
    984,985,986,987,988,989,990,991,992,993,994,995,996,997,998,999,1000,1001,1002,1003,1004,1005,
    1006,1007,1012,1013,1015,1016,1017,1019,1021,1072,1120,1121,1122,1123,1124,1125,1126,1127,1128,
    1129,1130,1131,1132,1133,1134,1135,1136,1137,1138,1139,1140,1141,1142,1143,1144,1145,1146,1147,
    1148,1149,1150,1151,1152,1153,1162,1163,1164,1165,1166,1167,1168,1169,1170,1171,1172,1173,1174,
    1175,1176,1177,1178,1179,1180,1181,1182,1183,1184,1185,1186,1187,1188,1189,1190,1191,1192,1193,
    1194,1195,1196,1197,1198,1199,1200,1201,1202,1203,1204,1205,1206,1207,1208,1209,1210,1211,1212,
    1213,1214,1215,1216,1218,1219,1220,1221,1222,1223,1224,1225,1226,1227,1228,1229,1230,1232,1233,
    1234,1235,1236,1237,1238,1239,1240,1241,1242,1243,1244,1245,1246,1247,1248,1249,1250,1251,1252,
    1253,1254,1255,1256,1257,1258,1259,1260,1261,1262,1263,1264,1265,1266,1267,1268,1269,1270,1271,
    1272,1273,1274,1275,1276,1277,1278,1279,1280,1281,1282,1283,1284,1285,1286,1287,1288,1289,1290,
    1291,1292,1293,1294,1295,1296,1297,1298,1299,1300,1301,1302,1303,1304,1305,1306,1307,1308,1309,
    1310,1311,1312,1313,1314,1315,1316,1317,1318,1319,1320,1321,1322,1323,1324,1325,1326,1327,1329,
    1367,4256,4294,4295,4296,4301,4302,5024,5110,7305,7306,7680,7681,7682,7683,7684,7685,7686,7687,
    7688,7689,7690,7691,7692,7693,7694,7695,7696,7697,7698,7699,7700,7701,7702,7703,7704,7705,7706,
    7707,7708,7709,7710,7711,7712,7713,7714,7715,7716,7717,7718,7719,7720,7721,7722,7723,7724,7725,
    7726,7727,7728,7729,7730,7731,7732,7733,7734,7735,7736,7737,7738,7739,7740,7741,7742,7743,7744,
    7745,7746,7747,7748,7749,7750,7751,7752,7753,7754,7755,7756,7757,7758,7759,7760,7761,7762,7763,
    7764,7765,7766,7767,7768,7769,7770,7771,7772,7773,7774,7775,7776,7777,7778,7779,7780,7781,7782,
    7783,7784,7785,7786,7787,7788,7789,7790,7791,7792,7793,7794,7795,7796,7797,7798,7799,7800,7801,
    7802,7803,7804,7805,7806,7807,7808,7809,7810,7811,7812,7813,7814,7815,7816,7817,7818,7819,7820,
    7821,7822,7823,7824,7825,7826,7827,7828,7829,7838,7839,7840,7841,7842,7843,7844,7845,7846,7847,
    7848,7849,7850,7851,7852,7853,7854,7855,7856,7857,7858,7859,7860,7861,7862,7863,7864,7865,7866,
    7867,7868,7869,7870,7871,7872,7873,7874,7875,7876,7877,7878,7879,7880,7881,7882,7883,7884,7885,
    7886,7887,7888,7889,7890,7891,7892,7893,7894,7895,7896,7897,7898,7899,7900,7901,7902,7903,7904,
    7905,7906,7907,7908,7909,7910,7911,7912,7913,7914,7915,7916,7917,7918,7919,7920,7921,7922,7923,
    7924,7925,7926,7927,7928,7929,7930,7931,7932,7933,7934,7935,7944,7952,7960,7966,7976,7984,7992,
    8000,8008,8014,8025,8026,8027,8028,8029,8030,8031,8032,8040,8048,8072,8080,8088,8096,8104,8112,
    8120,8125,8136,8141,8152,8156,8168,8173,8184,8189,8450,8451,8455,8456,8459,8462,8464,8467,8469,
    8470,8473,8478,8484,8485,8486,8487,8488,8489,8490,8494,8496,8500,8510,8512,8517,8518,8544,8560,
    8579,8580,9398,9424,11264,11312,11360,11361,11362,11365,11367,11368,11369,11370,11371,11372,
    11373,11377,11378,11379,11381,11382,11390,11393,11394,11395,11396,11397,11398,11399,11400,11401,
    11402,11403,11404,11405,11406,11407,11408,11409,11410,11411,11412,11413,11414,11415,11416,11417,
    11418,11419,11420,11421,11422,11423,11424,11425,11426,11427,11428,11429,11430,11431,11432,11433,
    11434,11435,11436,11437,11438,11439,11440,11441,11442,11443,11444,11445,11446,11447,11448,11449,
    11450,11451,11452,11453,11454,11455,11456,11457,11458,11459,11460,11461,11462,11463,11464,11465,
    11466,11467,11468,11469,11470,11471,11472,11473,11474,11475,11476,11477,11478,11479,11480,11481,
    11482,11483,11484,11485,11486,11487,11488,11489,11490,11491,11499,11500,11501,11502,11506,11507,
    42560,42561,42562,42563,42564,42565,42566,42567,42568,42569,42570,42571,42572,42573,42574,42575,
    42576,42577,42578,42579,42580,42581,42582,42583,42584,42585,42586,42587,42588,42589,42590,42591,
    42592,42593,42594,42595,42596,42597,42598,42599,42600,42601,42602,42603,42604,42605,42624,42625,
    42626,42627,42628,42629,42630,42631,42632,42633,42634,42635,42636,42637,42638,42639,42640,42641,
    42642,42643,42644,42645,42646,42647,42648,42649,42650,42651,42786,42787,42788,42789,42790,42791,
    42792,42793,42794,42795,42796,42797,42798,42799,42802,42803,42804,42805,42806,42807,42808,42809,
    42810,42811,42812,42813,42814,42815,42816,42817,42818,42819,42820,42821,42822,42823,42824,42825,
    42826,42827,42828,42829,42830,42831,42832,42833,42834,42835,42836,42837,42838,42839,42840,42841,
    42842,42843,42844,42845,42846,42847,42848,42849,42850,42851,42852,42853,42854,42855,42856,42857,
    42858,42859,42860,42861,42862,42863,42873,42874,42875,42876,42877,42879,42880,42881,42882,42883,
    42884,42885,42886,42887,42891,42892,42893,42894,42896,42897,42898,42899,42902,42903,42904,42905,
    42906,42907,42908,42909,42910,42911,42912,42913,42914,42915,42916,42917,42918,42919,42920,42921,
    42922,42927,42928,42933,42934,42935,42936,42937,42938,42939,42940,42941,42942,42943,42944,42945,
    42946,42947,42948,42952,42953,42954,42955,42957,42960,42961,42966,42967,42968,42969,42970,42971,
    42972,42973,42997,42998,65313,65339,66560,66600,66736,66772,66928,66939,66940,66955,66956,66963,
    66964,66966,68736,68787,68944,68966,71840,71872,93760,93792,119808,119834,119860,119886,119912,
    119938,119964,119965,119966,119968,119970,119971,119973,119975,119977,119981,119982,119990,
    120016,120042,120068,120070,120071,120075,120077,120085,120086,120093,120120,120122,120123,
    120127,120128,120133,120134,120135,120138,120145,120172,120198,120224,120250,120276,120302,
    120328,120354,120380,120406,120432,120458,120488,120513,120546,120571,120604,120629,120662,
    120687,120720,120745,120778,120779,125184,125218,127280,127306,127312,127338,127344,127370])]

end PromptPipeline.Pattern.Tables
