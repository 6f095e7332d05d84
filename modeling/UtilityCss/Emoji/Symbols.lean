/-!
# Symbols

Names of signs, arrows, clocks, buttons and other symbols of the older blocks.
Every word is a name with the code points of its characters behind it.
-/

namespace UtilityCss.Emoji

def symbols : String :=
  "
    keycap_number_sign/23-20E3 keycap_#/23-FE0F-20E3 keycap_asterisk/2A-20E3 keycap_*/2A-FE0F-20E3
    keycap_digit_zero/30-20E3 keycap_0/30-FE0F-20E3 zero/30-FE0F-20E3 keycap_digit_one/31-20E3
    keycap_1/31-FE0F-20E3 one/31-FE0F-20E3 keycap_digit_two/32-20E3 keycap_2/32-FE0F-20E3
    two/32-FE0F-20E3 keycap_digit_three/33-20E3 keycap_3/33-FE0F-20E3 three/33-FE0F-20E3
    keycap_digit_four/34-20E3 four/34-FE0F-20E3 keycap_4/34-FE0F-20E3 keycap_digit_five/35-20E3
    five/35-FE0F-20E3 keycap_5/35-FE0F-20E3 keycap_digit_six/36-20E3 keycap_6/36-FE0F-20E3
    six/36-FE0F-20E3 keycap_digit_seven/37-20E3 keycap_7/37-FE0F-20E3 seven/37-FE0F-20E3
    keycap_digit_eight/38-20E3 eight/38-FE0F-20E3 keycap_8/38-FE0F-20E3 keycap_digit_nine/39-20E3
    keycap_9/39-FE0F-20E3 nine/39-FE0F-20E3 \x63opyright/A9 registered/AE bangbang/203C
    double_exclamation_mark/203C exclamation_question_mark/2049 interrobang/2049 tm/2122
    trade_mark/2122 information/2139 information_source/2139 left-right_arrow/2194
    left_right_arrow/2194 arrow_up_down/2195 up-down_arrow/2195 arrow_upper_left/2196
    up-left_arrow/2196 arrow_upper_right/2197 up-right_arrow/2197 arrow_lower_right/2198
    down-right_arrow/2198 arrow_lower_left/2199 down-left_arrow/2199
    leftwards_arrow_with_hook/21A9 right_arrow_curving_left/21A9 arrow_right_hook/21AA
    left_arrow_curving_right/21AA watch/231A hourglass/231B hourglass_done/231B keyboard/2328
    helm_symbol/2388 eject_button/23CF eject_symbol/23CF fast-forward_button/23E9
    fast_forward/23E9 fast_reverse_button/23EA rewind/23EA arrow_double_up/23EB
    fast_up_button/23EB arrow_double_down/23EC fast_down_button/23EC
    black_right__pointing_double_triangle_with_vertical_bar/23ED next_track_button/23ED
    black_left__pointing_double_triangle_with_vertical_bar/23EE last_track_button/23EE
    black_right__pointing_triangle_with_double_vertical_bar/23EF play_or_pause_button/23EF
    alarm_clock/23F0 stopwatch/23F1 timer_clock/23F2 hourglass_flowing_sand/23F3
    hourglass_not_done/23F3 double_vertical_bar/23F8 pause_button/23F8 black_square_for_stop/23F9
    stop_button/23F9 black_circle_for_record/23FA record_button/23FA circled_m/24C2 m/24C2
    black_small_square/25AA white_small_square/25AB arrow_forward/25B6 play_button/25B6
    arrow_backward/25C0 reverse_button/25C0 white_medium_square/25FB black_medium_square/25FC
    white_medium-small_square/25FD white_medium_small_square/25FD black_medium-small_square/25FE
    black_medium_small_square/25FE sun/2600 sunny/2600 cloud/2601 umbrella/2602 snowman/2603
    comet/2604 phone/260E telephone/260E ballot_box_with_check/2611 umbrella_with_rain_drops/2614
    coffee/2615 hot_beverage/2615 shamrock/2618 point_up/261D skull_and_crossbones/2620
    radioactive/2622 radioactive_sign/2622 biohazard/2623 biohazard_sign/2623 orthodox_cross/2626
    star_and_crescent/262A peace_symbol/262E yin_yang/262F wheel_of_dharma/2638 frowning_face/2639
    white_frowning_face/2639 relaxed/263A smiling_face/263A female_sign/2640 male_sign/2642
    aries/2648 taurus/2649 gemini/264A cancer/264B leo/264C virgo/264D libra/264E scorpio/264F
    scorpius/264F sagittarius/2650 capricorn/2651 aquarius/2652 pisces/2653 chess_pawn/265F
    spade_suit/2660 spades/2660 club_suit/2663 clubs/2663 heart_suit/2665 hearts/2665
    diamond_suit/2666 diamonds/2666 hot_springs/2668 hotsprings/2668 recycle/267B
    recycling_symbol/267B infinity/267E wheelchair/267F wheelchair_symbol/267F
    hammer_and_pick/2692 anchor/2693 crossed_swords/2694 medical_symbol/2695 balance_scale/2696
    scales/2696 alembic/2697 gear/2699 atom_symbol/269B fleur-de-lis/269C fleur__de__lis/269C
    warning/26A0 high_voltage/26A1 zap/26A1 white_circle/26AA black_circle/26AB coffin/26B0
    funeral_urn/26B1 soccer/26BD soccer_ball/26BD baseball/26BE snowman_without_snow/26C4
    partly_sunny/26C5 sun_behind_cloud/26C5 cloud_with_lightning_and_rain/26C8
    thunder_cloud_and_rain/26C8 ophiuchus/26CE pick/26CF helmet_with_white_cross/26D1
    rescue_worker’s_helmet/26D1 chains/26D3 no_entry/26D4 shinto_shrine/26E9 church/26EA
    mountain/26F0 umbrella_on_ground/26F1 fountain/26F2 flag_in_hole/26F3 golf/26F3 ferry/26F4
    boat/26F5 sailboat/26F5 skier/26F7 ice_skate/26F8 person_with_ball/26F9 tent/26FA
    fuel_pump/26FD fuelpump/26FD scissors/2702 white_check_mark/2705 white_heavy_check_mark/2705
    airplane/2708 email/2709 envelope/2709 fist/270A hand/270B v/270C pencil2/270F black_nib/2712
    heavy_check_mark/2714 heavy_multiplication_x/2716 latin_cross/271D star_of_david/2721
    sparkles/2728 eight-spoked_asterisk/2733 eight_spoked_asterisk/2733 eight-pointed_star/2734
    eight_pointed_black_star/2734 snowflake/2744 sparkle/2747 cross_mark/274C x/274C
    cross_mark_button/274E negative_squared_cross_mark/274E question/2753 question_mark/2753
    grey_question/2754 white_question_mark/2754 grey_exclamation/2755 white_exclamation_mark/2755
    exclamation/2757 exclamation_mark/2757 heavy_exclamation_mark/2757
    heavy_heart_exclamation/2763 heavy_heart_exclamation_mark_ornament/2763 heart/2764
    red_heart/2764 heavy_plus_sign/2795 heavy_minus_sign/2796 heavy_division_sign/2797
    arrow_right/27A1 right_arrow/27A1 curly_loop/27B0 double_curly_loop/27BF loop/27BF
    arrow_heading_up/2934 right_arrow_curving_up/2934 arrow_heading_down/2935
    right_arrow_curving_down/2935 arrow_left/2B05 left_arrow/2B05 arrow_up/2B06 up_arrow/2B06
    arrow_down/2B07 down_arrow/2B07 black_large_square/2B1B white_large_square/2B1C star/2B50
    white_medium_star/2B50 heavy_large_circle/2B55 o/2B55 wavy_dash/3030
    part_alternation_mark/303D congratulations/3297 japanese_congratulations_button/3297
    japanese_secret_button/3299 secret/3299 mahjong/1F004 mahjong_red_dragon/1F004
    black_joker/1F0CF joker/1F0CF a/1F170 a_button_(blood_type)/1F170 b/1F171
    b_button_(blood_type)/1F171 o2/1F17E o_button_(blood_type)/1F17E p_button/1F17F parking/1F17F
    ab/1F18E ab_button_(blood_type)/1F18E cl/1F191 cl_button/1F191 cool/1F192 cool_button/1F192
    free/1F193 free_button/1F193 id/1F194 id_button/1F194 new/1F195 new_button/1F195 ng/1F196
    ng_button/1F196 ok/1F197 ok_button/1F197 sos/1F198 sos_button/1F198 up/1F199 up!_button/1F199
    vs/1F19A vs_button/1F19A japanese_here_button/1F201 koko/1F201
    japanese_service_charge_button/1F202 sa/1F202 japanese_free_of_charge_button/1F21A u7121/1F21A
    japanese_reserved_button/1F22F u6307/1F22F japanese_prohibited_button/1F232 u7981/1F232
    japanese_vacancy_button/1F233 u7a7a/1F233 japanese_passing_grade_button/1F234 u5408/1F234
    japanese_no_vacancy_button/1F235 u6e80/1F235 japanese_not_free_of_charge_button/1F236
    u6709/1F236 japanese_monthly_amount_button/1F237 u6708/1F237 japanese_application_button/1F238
    u7533/1F238 japanese_discount_button/1F239 u5272/1F239 japanese_open_for_business_button/1F23A
    u55b6/1F23A ideograph_advantage/1F250 japanese_bargain_button/1F250 accept/1F251
    japanese_acceptable_button/1F251
  "

end UtilityCss.Emoji
