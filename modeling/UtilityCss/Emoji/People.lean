/-!
# People

Names of people and of hands, which may also be shown in one of five skin tones.
Every word is a name with the code points of its characters behind it.
-/

namespace UtilityCss.Emoji

def people : String :=
  "
    index_pointing_up/261D person_bouncing_ball/26F9 woman_bouncing_ball/26F9-FE0F-200D-2640-FE0F
    man_bouncing_ball/26F9-FE0F-200D-2642-FE0F raised_fist/270A raised_hand/270B victory_hand/270C
    writing_hand/270D santa_claus/1F385 snowboarder/1F3C2 person_running/1F3C3
    woman_running/1F3C3-200D-2640-FE0F man_running/1F3C3-200D-2642-FE0F person_surfing/1F3C4
    woman_surfing/1F3C4-200D-2640-FE0F man_surfing/1F3C4-200D-2642-FE0F horse_racing/1F3C7
    person_swimming/1F3CA woman_swimming/1F3CA-200D-2640-FE0F man_swimming/1F3CA-200D-2642-FE0F
    person_lifting_weights/1F3CB woman_lifting_weights/1F3CB-FE0F-200D-2640-FE0F
    man_lifting_weights/1F3CB-FE0F-200D-2642-FE0F person_golfing/1F3CC
    woman_golfing/1F3CC-FE0F-200D-2640-FE0F man_golfing/1F3CC-FE0F-200D-2642-FE0F ear/1F442
    nose/1F443 backhand_index_pointing_up/1F446 backhand_index_pointing_down/1F447
    backhand_index_pointing_left/1F448 backhand_index_pointing_right/1F449 oncoming_fist/1F44A
    waving_hand/1F44B ok_hand/1F44C thumbs_up/1F44D thumbs_down/1F44E clapping_hands/1F44F
    open_hands/1F450 boy/1F466 girl/1F467 man/1F468 man_health_worker/1F468-200D-2695-FE0F
    man_judge/1F468-200D-2696-FE0F man_pilot/1F468-200D-2708-FE0F man_farmer/1F468-200D-1F33E
    man_cook/1F468-200D-1F373 man_student/1F468-200D-1F393 man_singer/1F468-200D-1F3A4
    man_artist/1F468-200D-1F3A8 man_teacher/1F468-200D-1F3EB man_factory_worker/1F468-200D-1F3ED
    man_technologist/1F468-200D-1F4BB man_office_worker/1F468-200D-1F4BC
    man_mechanic/1F468-200D-1F527 man_scientist/1F468-200D-1F52C man_astronaut/1F468-200D-1F680
    man_firefighter/1F468-200D-1F692 woman/1F469 woman_health_worker/1F469-200D-2695-FE0F
    woman_judge/1F469-200D-2696-FE0F woman_pilot/1F469-200D-2708-FE0F
    woman_farmer/1F469-200D-1F33E woman_cook/1F469-200D-1F373 woman_student/1F469-200D-1F393
    woman_singer/1F469-200D-1F3A4 woman_artist/1F469-200D-1F3A8 woman_teacher/1F469-200D-1F3EB
    woman_factory_worker/1F469-200D-1F3ED woman_technologist/1F469-200D-1F4BB
    woman_office_worker/1F469-200D-1F4BC woman_mechanic/1F469-200D-1F527
    woman_scientist/1F469-200D-1F52C woman_astronaut/1F469-200D-1F680
    woman_firefighter/1F469-200D-1F692 police_officer/1F46E
    woman_police_officer/1F46E-200D-2640-FE0F man_police_officer/1F46E-200D-2642-FE0F
    bride_with_veil/1F470 blond-haired_person/1F471 blond-haired_woman/1F471-200D-2640-FE0F
    blond-haired_man/1F471-200D-2642-FE0F man_with_chinese_cap/1F472 person_wearing_turban/1F473
    woman_wearing_turban/1F473-200D-2640-FE0F man_wearing_turban/1F473-200D-2642-FE0F
    old_man/1F474 old_woman/1F475 baby/1F476 construction_worker/1F477
    woman_construction_worker/1F477-200D-2640-FE0F man_construction_worker/1F477-200D-2642-FE0F
    princess/1F478 baby_angel/1F47C person_tipping_hand/1F481
    woman_tipping_hand/1F481-200D-2640-FE0F man_tipping_hand/1F481-200D-2642-FE0F guard/1F482
    woman_guard/1F482-200D-2640-FE0F man_guard/1F482-200D-2642-FE0F woman_dancing/1F483
    nail_polish/1F485 person_getting_massage/1F486 woman_getting_massage/1F486-200D-2640-FE0F
    man_getting_massage/1F486-200D-2642-FE0F person_getting_haircut/1F487
    woman_getting_haircut/1F487-200D-2640-FE0F man_getting_haircut/1F487-200D-2642-FE0F
    flexed_biceps/1F4AA man_in_suit_levitating/1F574 detective/1F575
    woman_detective/1F575-FE0F-200D-2640-FE0F man_detective/1F575-FE0F-200D-2642-FE0F
    man_dancing/1F57A hand_with_fingers_splayed/1F590 middle_finger/1F595 vulcan_salute/1F596
    person_gesturing_no/1F645 woman_gesturing_no/1F645-200D-2640-FE0F
    man_gesturing_no/1F645-200D-2642-FE0F person_gesturing_ok/1F646
    woman_gesturing_ok/1F646-200D-2640-FE0F man_gesturing_ok/1F646-200D-2642-FE0F
    person_bowing/1F647 woman_bowing/1F647-200D-2640-FE0F man_bowing/1F647-200D-2642-FE0F
    person_raising_hand/1F64B woman_raising_hand/1F64B-200D-2640-FE0F
    man_raising_hand/1F64B-200D-2642-FE0F raising_hands/1F64C person_frowning/1F64D
    woman_frowning/1F64D-200D-2640-FE0F man_frowning/1F64D-200D-2642-FE0F person_pouting/1F64E
    woman_pouting/1F64E-200D-2640-FE0F man_pouting/1F64E-200D-2642-FE0F folded_hands/1F64F
    person_rowing_boat/1F6A3 woman_rowing_boat/1F6A3-200D-2640-FE0F
    man_rowing_boat/1F6A3-200D-2642-FE0F person_biking/1F6B4 woman_biking/1F6B4-200D-2640-FE0F
    man_biking/1F6B4-200D-2642-FE0F person_mountain_biking/1F6B5
    woman_mountain_biking/1F6B5-200D-2640-FE0F man_mountain_biking/1F6B5-200D-2642-FE0F
    person_walking/1F6B6 woman_walking/1F6B6-200D-2640-FE0F man_walking/1F6B6-200D-2642-FE0F
    person_taking_bath/1F6C0 person_in_bed/1F6CC sign_of_the_horns/1F918 call_me_hand/1F919
    raised_back_of_hand/1F91A left-facing_fist/1F91B right-facing_fist/1F91C crossed_fingers/1F91E
    love-you_gesture/1F91F person_facepalming/1F926 woman_facepalming/1F926-200D-2640-FE0F
    man_facepalming/1F926-200D-2642-FE0F pregnant_woman/1F930 breast-feeding/1F931
    palms_up_together/1F932 selfie/1F933 prince/1F934 man_in_tuxedo/1F935 mrs._claus/1F936
    person_shrugging/1F937 woman_shrugging/1F937-200D-2640-FE0F man_shrugging/1F937-200D-2642-FE0F
    person_cartwheeling/1F938 woman_cartwheeling/1F938-200D-2640-FE0F
    man_cartwheeling/1F938-200D-2642-FE0F person_juggling/1F939
    woman_juggling/1F939-200D-2640-FE0F man_juggling/1F939-200D-2642-FE0F
    person_playing_water_polo/1F93D woman_playing_water_polo/1F93D-200D-2640-FE0F
    man_playing_water_polo/1F93D-200D-2642-FE0F person_playing_handball/1F93E
    woman_playing_handball/1F93E-200D-2640-FE0F man_playing_handball/1F93E-200D-2642-FE0F
    adult/1F9D1 child/1F9D2 older_adult/1F9D3 bearded_person/1F9D4 woman_with_headscarf/1F9D5
    person_in_steamy_room/1F9D6 woman_in_steamy_room/1F9D6-200D-2640-FE0F
    man_in_steamy_room/1F9D6-200D-2642-FE0F person_climbing/1F9D7
    woman_climbing/1F9D7-200D-2640-FE0F man_climbing/1F9D7-200D-2642-FE0F
    person_in_lotus_position/1F9D8 woman_in_lotus_position/1F9D8-200D-2640-FE0F
    man_in_lotus_position/1F9D8-200D-2642-FE0F mage/1F9D9 woman_mage/1F9D9-200D-2640-FE0F
    man_mage/1F9D9-200D-2642-FE0F fairy/1F9DA woman_fairy/1F9DA-200D-2640-FE0F
    man_fairy/1F9DA-200D-2642-FE0F vampire/1F9DB woman_vampire/1F9DB-200D-2640-FE0F
    man_vampire/1F9DB-200D-2642-FE0F merperson/1F9DC mermaid/1F9DC-200D-2640-FE0F
    merman/1F9DC-200D-2642-FE0F elf/1F9DD woman_elf/1F9DD-200D-2640-FE0F
    man_elf/1F9DD-200D-2642-FE0F
  "

end UtilityCss.Emoji
