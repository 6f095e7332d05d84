/-!
# Flags

Names of flags and of the regional indicators that flags are made of.
Every word is a name with the code points of its characters behind it.
-/

namespace UtilityCss.Emoji

def flags : String :=
  "
    regional_indicator_a/1F1E6 regional_indicator_symbol_letter_a/1F1E6
    ascension_island/1F1E6-1F1E8 flag_for_ascension_island/1F1E6-1F1E8 andorra/1F1E6-1F1E9
    flag_for_andorra/1F1E6-1F1E9 flag_for_united_arab_emirates/1F1E6-1F1EA
    united_arab_emirates/1F1E6-1F1EA afghanistan/1F1E6-1F1EB flag_for_afghanistan/1F1E6-1F1EB
    antigua_&_barbuda/1F1E6-1F1EC flag_for_antigua_&_barbuda/1F1E6-1F1EC anguilla/1F1E6-1F1EE
    flag_for_anguilla/1F1E6-1F1EE albania/1F1E6-1F1F1 flag_for_albania/1F1E6-1F1F1
    armenia/1F1E6-1F1F2 flag_for_armenia/1F1E6-1F1F2 angola/1F1E6-1F1F4
    flag_for_angola/1F1E6-1F1F4 antarctica/1F1E6-1F1F6 flag_for_antarctica/1F1E6-1F1F6
    argentina/1F1E6-1F1F7 flag_for_argentina/1F1E6-1F1F7 american_samoa/1F1E6-1F1F8
    flag_for_american_samoa/1F1E6-1F1F8 austria/1F1E6-1F1F9 flag_for_austria/1F1E6-1F1F9
    australia/1F1E6-1F1FA flag_for_australia/1F1E6-1F1FA aruba/1F1E6-1F1FC
    flag_for_aruba/1F1E6-1F1FC flag_for_åland_islands/1F1E6-1F1FD åland_islands/1F1E6-1F1FD
    azerbaijan/1F1E6-1F1FF flag_for_azerbaijan/1F1E6-1F1FF regional_indicator_b/1F1E7
    regional_indicator_symbol_letter_b/1F1E7 bosnia_&_herzegovina/1F1E7-1F1E6
    flag_for_bosnia_&_herzegovina/1F1E7-1F1E6 barbados/1F1E7-1F1E7 flag_for_barbados/1F1E7-1F1E7
    bangladesh/1F1E7-1F1E9 flag_for_bangladesh/1F1E7-1F1E9 belgium/1F1E7-1F1EA
    flag_for_belgium/1F1E7-1F1EA burkina_faso/1F1E7-1F1EB flag_for_burkina_faso/1F1E7-1F1EB
    bulgaria/1F1E7-1F1EC flag_for_bulgaria/1F1E7-1F1EC bahrain/1F1E7-1F1ED
    flag_for_bahrain/1F1E7-1F1ED burundi/1F1E7-1F1EE flag_for_burundi/1F1E7-1F1EE
    benin/1F1E7-1F1EF flag_for_benin/1F1E7-1F1EF flag_for_st._barthélemy/1F1E7-1F1F1
    st._barthélemy/1F1E7-1F1F1 bermuda/1F1E7-1F1F2 flag_for_bermuda/1F1E7-1F1F2 brunei/1F1E7-1F1F3
    flag_for_brunei/1F1E7-1F1F3 bolivia/1F1E7-1F1F4 flag_for_bolivia/1F1E7-1F1F4
    caribbean_netherlands/1F1E7-1F1F6 flag_for_caribbean_netherlands/1F1E7-1F1F6
    brazil/1F1E7-1F1F7 flag_for_brazil/1F1E7-1F1F7 bahamas/1F1E7-1F1F8
    flag_for_bahamas/1F1E7-1F1F8 bhutan/1F1E7-1F1F9 flag_for_bhutan/1F1E7-1F1F9
    bouvet_island/1F1E7-1F1FB flag_for_bouvet_island/1F1E7-1F1FB botswana/1F1E7-1F1FC
    flag_for_botswana/1F1E7-1F1FC belarus/1F1E7-1F1FE flag_for_belarus/1F1E7-1F1FE
    belize/1F1E7-1F1FF flag_for_belize/1F1E7-1F1FF regional_indicator_c/1F1E8
    regional_indicator_symbol_letter_c/1F1E8 canada/1F1E8-1F1E6 flag_for_canada/1F1E8-1F1E6
    cocos_(keeling)_islands/1F1E8-1F1E8 flag_for_cocos__islands/1F1E8-1F1E8
    congo_-_kinshasa/1F1E8-1F1E9 flag_for_congo____kinshasa/1F1E8-1F1E9
    central_african_republic/1F1E8-1F1EB flag_for_central_african_republic/1F1E8-1F1EB
    congo_-_brazzaville/1F1E8-1F1EC flag_for_congo____brazzaville/1F1E8-1F1EC
    flag_for_switzerland/1F1E8-1F1ED switzerland/1F1E8-1F1ED côte_d’ivoire/1F1E8-1F1EE
    flag_for_côte_d’ivoire/1F1E8-1F1EE cook_islands/1F1E8-1F1F0 flag_for_cook_islands/1F1E8-1F1F0
    chile/1F1E8-1F1F1 flag_for_chile/1F1E8-1F1F1 cameroon/1F1E8-1F1F2
    flag_for_cameroon/1F1E8-1F1F2 china/1F1E8-1F1F3 flag_for_china/1F1E8-1F1F3
    colombia/1F1E8-1F1F4 flag_for_colombia/1F1E8-1F1F4 clipperton_island/1F1E8-1F1F5
    flag_for_clipperton_island/1F1E8-1F1F5 costa_rica/1F1E8-1F1F7 flag_for_costa_rica/1F1E8-1F1F7
    cuba/1F1E8-1F1FA flag_for_cuba/1F1E8-1F1FA cape_verde/1F1E8-1F1FB
    flag_for_cape_verde/1F1E8-1F1FB curaçao/1F1E8-1F1FC flag_for_curaçao/1F1E8-1F1FC
    christmas_island/1F1E8-1F1FD flag_for_christmas_island/1F1E8-1F1FD cyprus/1F1E8-1F1FE
    flag_for_cyprus/1F1E8-1F1FE czechia/1F1E8-1F1FF flag_for_czech_republic/1F1E8-1F1FF
    regional_indicator_d/1F1E9 regional_indicator_symbol_letter_d/1F1E9
    flag_for_germany/1F1E9-1F1EA germany/1F1E9-1F1EA diego_garcia/1F1E9-1F1EC
    flag_for_diego_garcia/1F1E9-1F1EC djibouti/1F1E9-1F1EF flag_for_djibouti/1F1E9-1F1EF
    denmark/1F1E9-1F1F0 flag_for_denmark/1F1E9-1F1F0 dominica/1F1E9-1F1F2
    flag_for_dominica/1F1E9-1F1F2 dominican_republic/1F1E9-1F1F4
    flag_for_dominican_republic/1F1E9-1F1F4 algeria/1F1E9-1F1FF flag_for_algeria/1F1E9-1F1FF
    regional_indicator_e/1F1EA regional_indicator_symbol_letter_e/1F1EA
    ceuta_&_melilla/1F1EA-1F1E6 flag_for_ceuta_&_melilla/1F1EA-1F1E6 ecuador/1F1EA-1F1E8
    flag_for_ecuador/1F1EA-1F1E8 estonia/1F1EA-1F1EA flag_for_estonia/1F1EA-1F1EA
    egypt/1F1EA-1F1EC flag_for_egypt/1F1EA-1F1EC flag_for_western_sahara/1F1EA-1F1ED
    western_sahara/1F1EA-1F1ED eritrea/1F1EA-1F1F7 flag_for_eritrea/1F1EA-1F1F7
    flag_for_spain/1F1EA-1F1F8 spain/1F1EA-1F1F8 ethiopia/1F1EA-1F1F9
    flag_for_ethiopia/1F1EA-1F1F9 european_union/1F1EA-1F1FA flag_for_european_union/1F1EA-1F1FA
    regional_indicator_f/1F1EB regional_indicator_symbol_letter_f/1F1EB finland/1F1EB-1F1EE
    flag_for_finland/1F1EB-1F1EE fiji/1F1EB-1F1EF flag_for_fiji/1F1EB-1F1EF
    falkland_islands/1F1EB-1F1F0 flag_for_falkland_islands/1F1EB-1F1F0
    flag_for_micronesia/1F1EB-1F1F2 micronesia/1F1EB-1F1F2 faroe_islands/1F1EB-1F1F4
    flag_for_faroe_islands/1F1EB-1F1F4 flag_for_france/1F1EB-1F1F7 france/1F1EB-1F1F7
    regional_indicator_g/1F1EC regional_indicator_symbol_letter_g/1F1EC flag_for_gabon/1F1EC-1F1E6
    gabon/1F1EC-1F1E6 flag_for_united_kingdom/1F1EC-1F1E7 united_kingdom/1F1EC-1F1E7
    flag_for_grenada/1F1EC-1F1E9 grenada/1F1EC-1F1E9 flag_for_georgia/1F1EC-1F1EA
    georgia/1F1EC-1F1EA flag_for_french_guiana/1F1EC-1F1EB french_guiana/1F1EC-1F1EB
    flag_for_guernsey/1F1EC-1F1EC guernsey/1F1EC-1F1EC flag_for_ghana/1F1EC-1F1ED
    ghana/1F1EC-1F1ED flag_for_gibraltar/1F1EC-1F1EE gibraltar/1F1EC-1F1EE
    flag_for_greenland/1F1EC-1F1F1 greenland/1F1EC-1F1F1 flag_for_gambia/1F1EC-1F1F2
    gambia/1F1EC-1F1F2 flag_for_guinea/1F1EC-1F1F3 guinea/1F1EC-1F1F3
    flag_for_guadeloupe/1F1EC-1F1F5 guadeloupe/1F1EC-1F1F5 equatorial_guinea/1F1EC-1F1F6
    flag_for_equatorial_guinea/1F1EC-1F1F6 flag_for_greece/1F1EC-1F1F7 greece/1F1EC-1F1F7
    flag_for_south_georgia_&_south_sandwich_islands/1F1EC-1F1F8
    south_georgia_&_south_sandwich_islands/1F1EC-1F1F8 flag_for_guatemala/1F1EC-1F1F9
    guatemala/1F1EC-1F1F9 flag_for_guam/1F1EC-1F1FA guam/1F1EC-1F1FA
    flag_for_guinea__bissau/1F1EC-1F1FC guinea-bissau/1F1EC-1F1FC flag_for_guyana/1F1EC-1F1FE
    guyana/1F1EC-1F1FE regional_indicator_h/1F1ED regional_indicator_symbol_letter_h/1F1ED
    flag_for_hong_kong/1F1ED-1F1F0 hong_kong_sar_china/1F1ED-1F1F0
    flag_for_heard_&_mcdonald_islands/1F1ED-1F1F2 heard_&_mcdonald_islands/1F1ED-1F1F2
    flag_for_honduras/1F1ED-1F1F3 honduras/1F1ED-1F1F3 croatia/1F1ED-1F1F7
    flag_for_croatia/1F1ED-1F1F7 flag_for_haiti/1F1ED-1F1F9 haiti/1F1ED-1F1F9
    flag_for_hungary/1F1ED-1F1FA hungary/1F1ED-1F1FA regional_indicator_i/1F1EE
    regional_indicator_symbol_letter_i/1F1EE canary_islands/1F1EE-1F1E8
    flag_for_canary_islands/1F1EE-1F1E8 flag_for_indonesia/1F1EE-1F1E9 indonesia/1F1EE-1F1E9
    flag_for_ireland/1F1EE-1F1EA ireland/1F1EE-1F1EA flag_for_israel/1F1EE-1F1F1
    israel/1F1EE-1F1F1 flag_for_isle_of_man/1F1EE-1F1F2 isle_of_man/1F1EE-1F1F2
    flag_for_india/1F1EE-1F1F3 india/1F1EE-1F1F3 british_indian_ocean_territory/1F1EE-1F1F4
    flag_for_british_indian_ocean_territory/1F1EE-1F1F4 flag_for_iraq/1F1EE-1F1F6 iraq/1F1EE-1F1F6
    flag_for_iran/1F1EE-1F1F7 iran/1F1EE-1F1F7 flag_for_iceland/1F1EE-1F1F8 iceland/1F1EE-1F1F8
    flag_for_italy/1F1EE-1F1F9 italy/1F1EE-1F1F9 regional_indicator_j/1F1EF
    regional_indicator_symbol_letter_j/1F1EF flag_for_jersey/1F1EF-1F1EA jersey/1F1EF-1F1EA
    flag_for_jamaica/1F1EF-1F1F2 jamaica/1F1EF-1F1F2 flag_for_jordan/1F1EF-1F1F4
    jordan/1F1EF-1F1F4 flag_for_japan/1F1EF-1F1F5 regional_indicator_k/1F1F0
    regional_indicator_symbol_letter_k/1F1F0 flag_for_kenya/1F1F0-1F1EA kenya/1F1F0-1F1EA
    flag_for_kyrgyzstan/1F1F0-1F1EC kyrgyzstan/1F1F0-1F1EC cambodia/1F1F0-1F1ED
    flag_for_cambodia/1F1F0-1F1ED flag_for_kiribati/1F1F0-1F1EE kiribati/1F1F0-1F1EE
    comoros/1F1F0-1F1F2 flag_for_comoros/1F1F0-1F1F2 flag_for_st._kitts_&_nevis/1F1F0-1F1F3
    st._kitts_&_nevis/1F1F0-1F1F3 flag_for_north_korea/1F1F0-1F1F5 north_korea/1F1F0-1F1F5
    flag_for_south_korea/1F1F0-1F1F7 south_korea/1F1F0-1F1F7 flag_for_kuwait/1F1F0-1F1FC
    kuwait/1F1F0-1F1FC cayman_islands/1F1F0-1F1FE flag_for_cayman_islands/1F1F0-1F1FE
    flag_for_kazakhstan/1F1F0-1F1FF kazakhstan/1F1F0-1F1FF regional_indicator_l/1F1F1
    regional_indicator_symbol_letter_l/1F1F1 flag_for_laos/1F1F1-1F1E6 laos/1F1F1-1F1E6
    flag_for_lebanon/1F1F1-1F1E7 lebanon/1F1F1-1F1E7 flag_for_st._lucia/1F1F1-1F1E8
    st._lucia/1F1F1-1F1E8 flag_for_liechtenstein/1F1F1-1F1EE liechtenstein/1F1F1-1F1EE
    flag_for_sri_lanka/1F1F1-1F1F0 sri_lanka/1F1F1-1F1F0 flag_for_liberia/1F1F1-1F1F7
    liberia/1F1F1-1F1F7 flag_for_lesotho/1F1F1-1F1F8 lesotho/1F1F1-1F1F8
    flag_for_lithuania/1F1F1-1F1F9 lithuania/1F1F1-1F1F9 flag_for_luxembourg/1F1F1-1F1FA
    luxembourg/1F1F1-1F1FA flag_for_latvia/1F1F1-1F1FB latvia/1F1F1-1F1FB
    flag_for_libya/1F1F1-1F1FE libya/1F1F1-1F1FE regional_indicator_m/1F1F2
    regional_indicator_symbol_letter_m/1F1F2 flag_for_morocco/1F1F2-1F1E6 morocco/1F1F2-1F1E6
    flag_for_monaco/1F1F2-1F1E8 monaco/1F1F2-1F1E8 flag_for_moldova/1F1F2-1F1E9
    moldova/1F1F2-1F1E9 flag_for_montenegro/1F1F2-1F1EA montenegro/1F1F2-1F1EA
    flag_for_st._martin/1F1F2-1F1EB st._martin/1F1F2-1F1EB flag_for_madagascar/1F1F2-1F1EC
    madagascar/1F1F2-1F1EC flag_for_marshall_islands/1F1F2-1F1ED marshall_islands/1F1F2-1F1ED
    flag_for_macedonia/1F1F2-1F1F0 macedonia/1F1F2-1F1F0 flag_for_mali/1F1F2-1F1F1
    mali/1F1F2-1F1F1 flag_for_myanmar/1F1F2-1F1F2 myanmar_(burma)/1F1F2-1F1F2
    flag_for_mongolia/1F1F2-1F1F3 mongolia/1F1F2-1F1F3 flag_for_macau/1F1F2-1F1F4
    macau_sar_china/1F1F2-1F1F4 flag_for_northern_mariana_islands/1F1F2-1F1F5
    northern_mariana_islands/1F1F2-1F1F5 flag_for_martinique/1F1F2-1F1F6 martinique/1F1F2-1F1F6
    flag_for_mauritania/1F1F2-1F1F7 mauritania/1F1F2-1F1F7 flag_for_montserrat/1F1F2-1F1F8
    montserrat/1F1F2-1F1F8 flag_for_malta/1F1F2-1F1F9 malta/1F1F2-1F1F9
    flag_for_mauritius/1F1F2-1F1FA mauritius/1F1F2-1F1FA flag_for_maldives/1F1F2-1F1FB
    maldives/1F1F2-1F1FB flag_for_malawi/1F1F2-1F1FC malawi/1F1F2-1F1FC
    flag_for_mexico/1F1F2-1F1FD mexico/1F1F2-1F1FD flag_for_malaysia/1F1F2-1F1FE
    malaysia/1F1F2-1F1FE flag_for_mozambique/1F1F2-1F1FF mozambique/1F1F2-1F1FF
    regional_indicator_n/1F1F3 regional_indicator_symbol_letter_n/1F1F3
    flag_for_namibia/1F1F3-1F1E6 namibia/1F1F3-1F1E6 flag_for_new_caledonia/1F1F3-1F1E8
    new_caledonia/1F1F3-1F1E8 flag_for_niger/1F1F3-1F1EA niger/1F1F3-1F1EA
    flag_for_norfolk_island/1F1F3-1F1EB norfolk_island/1F1F3-1F1EB flag_for_nigeria/1F1F3-1F1EC
    nigeria/1F1F3-1F1EC flag_for_nicaragua/1F1F3-1F1EE nicaragua/1F1F3-1F1EE
    flag_for_netherlands/1F1F3-1F1F1 netherlands/1F1F3-1F1F1 flag_for_norway/1F1F3-1F1F4
    norway/1F1F3-1F1F4 flag_for_nepal/1F1F3-1F1F5 nepal/1F1F3-1F1F5 flag_for_nauru/1F1F3-1F1F7
    nauru/1F1F3-1F1F7 flag_for_niue/1F1F3-1F1FA niue/1F1F3-1F1FA flag_for_new_zealand/1F1F3-1F1FF
    new_zealand/1F1F3-1F1FF regional_indicator_o/1F1F4 regional_indicator_symbol_letter_o/1F1F4
    flag_for_oman/1F1F4-1F1F2 oman/1F1F4-1F1F2 regional_indicator_p/1F1F5
    regional_indicator_symbol_letter_p/1F1F5 flag_for_panama/1F1F5-1F1E6 panama/1F1F5-1F1E6
    flag_for_peru/1F1F5-1F1EA peru/1F1F5-1F1EA flag_for_french_polynesia/1F1F5-1F1EB
    french_polynesia/1F1F5-1F1EB flag_for_papua_new_guinea/1F1F5-1F1EC
    papua_new_guinea/1F1F5-1F1EC flag_for_philippines/1F1F5-1F1ED philippines/1F1F5-1F1ED
    flag_for_pakistan/1F1F5-1F1F0 pakistan/1F1F5-1F1F0 flag_for_poland/1F1F5-1F1F1
    poland/1F1F5-1F1F1 flag_for_st._pierre_&_miquelon/1F1F5-1F1F2
    st._pierre_&_miquelon/1F1F5-1F1F2 flag_for_pitcairn_islands/1F1F5-1F1F3
    pitcairn_islands/1F1F5-1F1F3 flag_for_puerto_rico/1F1F5-1F1F7 puerto_rico/1F1F5-1F1F7
    flag_for_palestinian_territories/1F1F5-1F1F8 palestinian_territories/1F1F5-1F1F8
    flag_for_portugal/1F1F5-1F1F9 portugal/1F1F5-1F1F9 flag_for_palau/1F1F5-1F1FC
    palau/1F1F5-1F1FC flag_for_paraguay/1F1F5-1F1FE paraguay/1F1F5-1F1FE
    regional_indicator_q/1F1F6 regional_indicator_symbol_letter_q/1F1F6 flag_for_qatar/1F1F6-1F1E6
    qatar/1F1F6-1F1E6 regional_indicator_r/1F1F7 regional_indicator_symbol_letter_r/1F1F7
    flag_for_réunion/1F1F7-1F1EA réunion/1F1F7-1F1EA flag_for_romania/1F1F7-1F1F4
    romania/1F1F7-1F1F4 flag_for_serbia/1F1F7-1F1F8 serbia/1F1F7-1F1F8 flag_for_russia/1F1F7-1F1FA
    russia/1F1F7-1F1FA flag_for_rwanda/1F1F7-1F1FC rwanda/1F1F7-1F1FC regional_indicator_s/1F1F8
    regional_indicator_symbol_letter_s/1F1F8 flag_for_saudi_arabia/1F1F8-1F1E6
    saudi_arabia/1F1F8-1F1E6 flag_for_solomon_islands/1F1F8-1F1E7 solomon_islands/1F1F8-1F1E7
    flag_for_seychelles/1F1F8-1F1E8 seychelles/1F1F8-1F1E8 flag_for_sudan/1F1F8-1F1E9
    sudan/1F1F8-1F1E9 flag_for_sweden/1F1F8-1F1EA sweden/1F1F8-1F1EA
    flag_for_singapore/1F1F8-1F1EC singapore/1F1F8-1F1EC flag_for_st._helena/1F1F8-1F1ED
    st._helena/1F1F8-1F1ED flag_for_slovenia/1F1F8-1F1EE slovenia/1F1F8-1F1EE
    flag_for_svalbard_&_jan_mayen/1F1F8-1F1EF svalbard_&_jan_mayen/1F1F8-1F1EF
    flag_for_slovakia/1F1F8-1F1F0 slovakia/1F1F8-1F1F0 flag_for_sierra_leone/1F1F8-1F1F1
    sierra_leone/1F1F8-1F1F1 flag_for_san_marino/1F1F8-1F1F2 san_marino/1F1F8-1F1F2
    flag_for_senegal/1F1F8-1F1F3 senegal/1F1F8-1F1F3 flag_for_somalia/1F1F8-1F1F4
    somalia/1F1F8-1F1F4 flag_for_suriname/1F1F8-1F1F7 suriname/1F1F8-1F1F7
    flag_for_south_sudan/1F1F8-1F1F8 south_sudan/1F1F8-1F1F8
    flag_for_são_tomé_&_príncipe/1F1F8-1F1F9 são_tomé_&_príncipe/1F1F8-1F1F9
    el_salvador/1F1F8-1F1FB flag_for_el_salvador/1F1F8-1F1FB flag_for_sint_maarten/1F1F8-1F1FD
    sint_maarten/1F1F8-1F1FD flag_for_syria/1F1F8-1F1FE syria/1F1F8-1F1FE
    flag_for_swaziland/1F1F8-1F1FF swaziland/1F1F8-1F1FF regional_indicator_symbol_letter_t/1F1F9
    regional_indicator_t/1F1F9 flag_for_tristan_da_cunha/1F1F9-1F1E6 tristan_da_cunha/1F1F9-1F1E6
    flag_for_turks_&_caicos_islands/1F1F9-1F1E8 turks_&_caicos_islands/1F1F9-1F1E8
    chad/1F1F9-1F1E9 flag_for_chad/1F1F9-1F1E9 flag_for_french_southern_territories/1F1F9-1F1EB
    french_southern_territories/1F1F9-1F1EB flag_for_togo/1F1F9-1F1EC togo/1F1F9-1F1EC
    flag_for_thailand/1F1F9-1F1ED thailand/1F1F9-1F1ED flag_for_tajikistan/1F1F9-1F1EF
    tajikistan/1F1F9-1F1EF flag_for_tokelau/1F1F9-1F1F0 tokelau/1F1F9-1F1F0
    flag_for_timor__leste/1F1F9-1F1F1 timor-leste/1F1F9-1F1F1 flag_for_turkmenistan/1F1F9-1F1F2
    turkmenistan/1F1F9-1F1F2 flag_for_tunisia/1F1F9-1F1F3 tunisia/1F1F9-1F1F3
    flag_for_tonga/1F1F9-1F1F4 tonga/1F1F9-1F1F4 flag_for_turkey/1F1F9-1F1F7
    flag_for_trinidad_&_tobago/1F1F9-1F1F9 trinidad_&_tobago/1F1F9-1F1F9
    flag_for_tuvalu/1F1F9-1F1FB tuvalu/1F1F9-1F1FB flag_for_taiwan/1F1F9-1F1FC taiwan/1F1F9-1F1FC
    flag_for_tanzania/1F1F9-1F1FF tanzania/1F1F9-1F1FF regional_indicator_symbol_letter_u/1F1FA
    regional_indicator_u/1F1FA flag_for_ukraine/1F1FA-1F1E6 ukraine/1F1FA-1F1E6
    flag_for_uganda/1F1FA-1F1EC uganda/1F1FA-1F1EC flag_for_u.s._outlying_islands/1F1FA-1F1F2
    u.s._outlying_islands/1F1FA-1F1F2 united_nations/1F1FA-1F1F3
    flag_for_united_states/1F1FA-1F1F8 united_states/1F1FA-1F1F8 flag_for_uruguay/1F1FA-1F1FE
    uruguay/1F1FA-1F1FE flag_for_uzbekistan/1F1FA-1F1FF uzbekistan/1F1FA-1F1FF
    regional_indicator_symbol_letter_v/1F1FB regional_indicator_v/1F1FB
    flag_for_vatican_city/1F1FB-1F1E6 vatican_city/1F1FB-1F1E6
    flag_for_st._vincent_&_grenadines/1F1FB-1F1E8 st._vincent_&_grenadines/1F1FB-1F1E8
    flag_for_venezuela/1F1FB-1F1EA venezuela/1F1FB-1F1EA british_virgin_islands/1F1FB-1F1EC
    flag_for_british_virgin_islands/1F1FB-1F1EC flag_for_u.s._virgin_islands/1F1FB-1F1EE
    u.s._virgin_islands/1F1FB-1F1EE flag_for_vietnam/1F1FB-1F1F3 vietnam/1F1FB-1F1F3
    flag_for_vanuatu/1F1FB-1F1FA vanuatu/1F1FB-1F1FA regional_indicator_symbol_letter_w/1F1FC
    regional_indicator_w/1F1FC flag_for_wallis_&_futuna/1F1FC-1F1EB wallis_&_futuna/1F1FC-1F1EB
    flag_for_samoa/1F1FC-1F1F8 samoa/1F1FC-1F1F8 regional_indicator_symbol_letter_x/1F1FD
    regional_indicator_x/1F1FD flag_for_kosovo/1F1FD-1F1F0 kosovo/1F1FD-1F1F0
    regional_indicator_symbol_letter_y/1F1FE regional_indicator_y/1F1FE flag_for_yemen/1F1FE-1F1EA
    yemen/1F1FE-1F1EA flag_for_mayotte/1F1FE-1F1F9 mayotte/1F1FE-1F1F9
    regional_indicator_symbol_letter_z/1F1FF regional_indicator_z/1F1FF
    flag_for_south_africa/1F1FF-1F1E6 south_africa/1F1FF-1F1E6 flag_for_zambia/1F1FF-1F1F2
    zambia/1F1FF-1F1F2 flag_for_zimbabwe/1F1FF-1F1FC zimbabwe/1F1FF-1F1FC waving_white_flag/1F3F3
    white_flag/1F3F3 rainbow_flag/1F3F3-FE0F-200D-1F308 black_flag/1F3F4 waving_black_flag/1F3F4
    pirate_flag/1F3F4-200D-2620-FE0F england/1F3F4-E0067-E0062-E0065-E006E-E0067-E007F
    scotland/1F3F4-E0067-E0062-E0073-E0063-E0074-E007F
    wales/1F3F4-E0067-E0062-E0077-E006C-E0073-E007F
  "

end UtilityCss.Emoji
